import RQuant.Paper.DecimalProfit
import RQuant.Paper.CostIdentity
import RQuant.Paper.FifoReplay
import RQuant.Paper.Settlement
import RQuant.Runtime.Fingerprint
import RQuant.Signal.Pages
import RQuant.Signal.WriteBack
import RQuant.Strategy.ExitSignals
import RQuant.Quota.Spending
import RQuant.Authority.EffectKeys
import RQuant.L2.Eviction
import RQuant.L2.Youth
import RQuant.Factor.Tdx
import RQuant.Lab.History
import RQuant.Lab.Completion
import RQuant.Lab.Control
import RQuant.Feature.Atomic
import RQuant.Portfolio.Drawdown
import RQuant.Portfolio.Exposure
