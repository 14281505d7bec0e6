import ClStateAnalyzer.Word
import ClStateAnalyzer.Loop
import ClStateAnalyzer.Spec.Block
import ClStateAnalyzer.Spec.State
import ClStateAnalyzer.Spec.Totals
import ClStateAnalyzer.Spec.Participation
import ClStateAnalyzer.Spec.MissingFlags
import ClStateAnalyzer.Spec.Balance
import ClStateAnalyzer.Spec.CustomAltair
import ClStateAnalyzer.ClientApi.Duties
import ClStateAnalyzer.Cmd.Flags
import ClStateAnalyzer.Db.Store
import ClStateAnalyzer.Analyzer.ProcessBlock
import ClStateAnalyzer.Analyzer.StateQueue
import ClStateAnalyzer.Analyzer.Chain
import ClStateAnalyzer.Analyzer.Rewind
import ClStateAnalyzer.Analyzer.Finality
import ClStateAnalyzer.Analyzer.Live
import ClStateAnalyzer.Analyzer.Recovery
import ClStateAnalyzer.Analyzer.Reachable
import ClStateAnalyzer.Analyzer.Historical
import ClStateAnalyzer.Analyzer.Shutdown
import ClStateAnalyzer.Analyzer.SlotRanges
