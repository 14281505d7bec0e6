/-
# ClStateAnalyzer.Cmd.Flags — `LaunchRewardsCalculator`

`LaunchRewardsCalculator` (`cmd/reward_cmd.go`) first checks its required flags, one guard
`if !c.IsSet(flag) { return errors.New(msg) }` after the other, then reads their values, then
reads the validator indexes from the JSON file the flag names (`GetValIndexesFromJson`), builds the
API client (`NewAPIClient`) and the state analyzer (`NewStateAnalyzer`), each returning its error
as it comes, and last runs the analyzer. The three calls are declared outside `src/`: they are
parameters here (`RewardsCalls`), each a function to an `Except`, so that every outcome of theirs
is covered. `launchRewardsCalculator_eq` states the guards as a search over the guard table,
`rewardsRequiredFlags`: the first failing guard decides the error.

Three details are the code's own. The guard of `init-slot` returns "final slot not provided", the
message of the `final-slot` guard. The slots are `uint64(c.Int(...))`, so a negative flag wraps to
the top of the `uint64` range. The worker counts start at `1` and are then overwritten by
`c.Int("workers-num")` and `c.Int("db-workers-num")` whether or not the flags are set. None of
`RewardsCommand`'s flags declares a `Value`, so an unset one reads as zero
(`CliContext.ForRewards`). An unset worker count is therefore `0`, though the log line announces
"default: 1" (`launchRewardsCalculator_unset_workers`).

Left out: the `log-level` guard, which only sets the logger's level, and what `Run` does, which
the analyzer modules cover.
-/
import ClStateAnalyzer.Word

namespace ClStateAnalyzer.Cmd

/-- The part of a `urfave/cli` context the command reads: which flags are set, and their values. -/
structure CliContext where
  isSet : String → Bool
  string : String → String
  int : String → Int

/-- The values `LaunchRewardsCalculator` reads from its flags. -/
structure RewardsFlags where
  bnEndpoint : String
  initSlot : Nat
  finalSlot : Nat
  dbUrl : String
  coworkers : Int
  dbWorkers : Int
  validatorIndexes : String
  deriving Repr, DecidableEq

/-- The calls `LaunchRewardsCalculator` makes after the flag reads, declared outside `src/`:
`GetValIndexesFromJson(path)`, `NewAPIClient(bnEndpoint)` and `NewStateAnalyzer(initSlot,
finalSlot, validatorIndexes, dbUrl, coworkers, dbWorkers)`, each with the error it may return. -/
structure RewardsCalls where
  getValIndexesFromJson : String → Except String (List Nat)
  newAPIClient : String → Except String Unit
  newStateAnalyzer : Nat → Nat → List Nat → String → Int → Int → Except String Unit

/-- What `LaunchRewardsCalculator` runs: the analyzer built from the flags and the validator
indexes, run with `coworkers` workers. -/
structure RewardsLaunch where
  flags : RewardsFlags
  validatorIndexes : List Nat
  deriving Repr, DecidableEq

/-- One guard: `if !c.IsSet(flag) { return errors.New(msg) }`. -/
def requireFlag (c : CliContext) (flag msg : String) : Except String Unit :=
  if c.isSet flag then .ok () else .error msg

/-- The flag reads of `LaunchRewardsCalculator`, once its guards have passed. -/
def readRewardsFlags (c : CliContext) : RewardsFlags :=
  { bnEndpoint := c.string "bn-endpoint"
    initSlot := uint64OfInt (c.int "init-slot")
    finalSlot := uint64OfInt (c.int "final-slot")
    dbUrl := c.string "db-url"
    coworkers := c.int "workers-num"
    dbWorkers := c.int "db-workers-num"
    validatorIndexes := c.string "validator-indexes" }

/-- What `LaunchRewardsCalculator` does once its flags are read: the three calls, each returning
its error, then `Run`. -/
def launchAnalyzer (calls : RewardsCalls) (flags : RewardsFlags) : Except String RewardsLaunch := do
  let validatorIndexes ← calls.getValIndexesFromJson flags.validatorIndexes
  calls.newAPIClient flags.bnEndpoint
  calls.newStateAnalyzer flags.initSlot flags.finalSlot validatorIndexes flags.dbUrl flags.coworkers
    flags.dbWorkers
  pure ⟨flags, validatorIndexes⟩

/-- `LaunchRewardsCalculator`: the guards, in source order, the flag reads, then the calls. -/
def launchRewardsCalculator (calls : RewardsCalls) (c : CliContext) : Except String RewardsLaunch := do
  requireFlag c "bn-endpoint" "bn endpoint not provided"
  requireFlag c "outfolder" "outputfolder no provided"
  requireFlag c "init-slot" "final slot not provided"
  requireFlag c "final-slot" "final slot not provided"
  requireFlag c "validator-indexes" "validator indexes not provided"
  requireFlag c "db-url" "db-url not provided"
  launchAnalyzer calls (readRewardsFlags c)

/-- The guards of `LaunchRewardsCalculator` as a table: each flag with the error its guard
returns, in source order. -/
def rewardsRequiredFlags : List (String × String) :=
  [("bn-endpoint", "bn endpoint not provided"), ("outfolder", "outputfolder no provided"),
    ("init-slot", "final slot not provided"), ("final-slot", "final slot not provided"),
    ("validator-indexes", "validator indexes not provided"), ("db-url", "db-url not provided")]

/-- A chain of guards, then `k`. -/
def requireAll (c : CliContext) (flags : List (String × String)) (k : Except String α) :
    Except String α :=
  flags.foldr (fun f r => requireFlag c f.1 f.2 >>= fun _ => r) k

/-- A chain of guards fails with the message of the first flag that is not set, and runs `k`
when every flag is set. -/
theorem requireAll_eq (c : CliContext) (flags : List (String × String)) (k : Except String α) :
    requireAll c flags k =
      match flags.find? (fun f => !c.isSet f.1) with
      | some f => .error f.2
      | none => k := by
  induction flags with
  | nil => rfl
  | cons f rest ih =>
    simp only [requireAll, List.foldr_cons] at ih ⊢
    rw [ih, List.find?_cons]
    unfold requireFlag
    cases c.isSet f.1 <;> rfl

/-- `LaunchRewardsCalculator` fails with the error of the first required flag that is not set, in
its guard order: bn-endpoint, outfolder, init-slot, final-slot, validator-indexes, db-url; a
missing `init-slot` is reported as "final slot not provided". When every required flag is set it
reads the slots as `uint64` of the `int` flags and goes on to its calls. -/
theorem launchRewardsCalculator_eq (calls : RewardsCalls) (c : CliContext) :
    launchRewardsCalculator calls c =
      match rewardsRequiredFlags.find? (fun f => !c.isSet f.1) with
      | some f => .error f.2
      | none => launchAnalyzer calls (readRewardsFlags c) :=
  requireAll_eq c rewardsRequiredFlags (launchAnalyzer calls (readRewardsFlags c))

/-- With only `bn-endpoint` and `outfolder` set, the command reports the final slot missing. -/
example : launchRewardsCalculator ⟨fun _ => .ok [], fun _ => .ok (), fun _ _ _ _ _ _ => .ok ()⟩
    ⟨fun f => f = "bn-endpoint" ∨ f = "outfolder", fun _ => "", fun _ => 0⟩ =
      .error "final slot not provided" :=
  rfl

/-- A context parsed against `RewardsCommand`'s flags, none of which declares a `Value`: a flag
that is not set reads as the zero value. -/
structure CliContext.ForRewards (c : CliContext) : Prop where
  unsetInt : ∀ f, c.isSet f = false → c.int f = 0
  unsetString : ∀ f, c.isSet f = false → c.string f = ""

/-- An analyzer that `LaunchRewardsCalculator` runs is built from the flag reads. -/
theorem flags_of_launchRewardsCalculator {calls : RewardsCalls} {c : CliContext}
    {launch : RewardsLaunch} (h : launchRewardsCalculator calls c = .ok launch) :
    launch.flags = readRewardsFlags c := by
  rw [launchRewardsCalculator_eq] at h
  split at h
  · cases h
  · simp only [launchAnalyzer, bind, Except.bind] at h
    repeat' split at h
    all_goals cases h
    rfl

/-- An analyzer that `LaunchRewardsCalculator` runs with `workers-num` or `db-workers-num` unset
has `0` such workers, not the default `1` the command's log line announces. -/
theorem launchRewardsCalculator_unset_workers {calls : RewardsCalls} {c : CliContext}
    (hc : c.ForRewards) {launch : RewardsLaunch} (h : launchRewardsCalculator calls c = .ok launch) :
    (c.isSet "workers-num" = false → launch.flags.coworkers = 0) ∧
      (c.isSet "db-workers-num" = false → launch.flags.dbWorkers = 0) := by
  rw [flags_of_launchRewardsCalculator h]
  exact ⟨hc.unsetInt "workers-num", hc.unsetInt "db-workers-num"⟩

end ClStateAnalyzer.Cmd
