import MegaEvm.FrameBudget
import MegaEvm.InstructionGas
import MegaEvm.FrameRevert
import MegaEvm.ComputeHalt
import MegaEvm.Nonce
import MegaEvm.GasConservation
import MegaEvm.EvmState
import MegaEvm.NestedBudget
import MegaEvm.Inspector
import MegaEvm.PopOutcome
import MegaEvm.AccessScope
import MegaEvm.DetentionDelay
import MegaEvm.StateGrowth
import MegaEvm.DualGas
import MegaEvm.StateMerge
import MegaEvm.SandboxState
import MegaEvm.SandboxContext
import MegaEvm.JournalReads
import MegaEvm.ReadSet
import MegaEvm.OracleReads
import MegaEvm.BlockLimits
import MegaEvm.BlockExecutor
import MegaEvm.OracleContract
import MegaEvm.InspectedRun
import MegaEvm.CallForwarding
import MegaEvm.FloorGas
import MegaEvm.ExceededStart
import MegaEvm.KeylessOutcomes
import MegaEvm.BeneficiaryDetection
import MegaEvm.TrackerDrift
import MegaEvm.DelegationWalk
import MegaEvm.InspectTransparency
import MegaEvm.NewAccountCharge
import MegaEvm.CreateAddress
import MegaEvm.CodeCounting
import MegaEvm.KeylessOverhead
import MegaEvm.HaltReasons
import MegaEvm.SystemCode
import MegaEvm.SystemCalls
import MegaEvm.KeylessFees
import MegaEvm.KeylessErrors
import MegaEvm.TrackerHistory
import MegaEvm.StorageGas
import MegaEvm.SystemDeploy
import MegaEvm.AccountDump
import MegaEvm.Prestate
import MegaEvm.RemainingGas
import MegaEvm.RoomierRuns
import MegaEvm.ContextReuse
import MegaEvm.Hardforks
import MegaEvm.ChainUpgrades
import MegaEvm.BlockReplay
import MegaEvm.BlockContext
import MegaEvm.T8nTransaction
import MegaEvm.T8nTransition
import MegaEvm.BalanceIncrements
import MegaEvm.BucketPrices
import MegaEvm.TxArgs
import MegaEvm.SystemTransactions
import MegaEvm.T8nAlloc
import MegaEvm.ReplayTarget
import MegaEvm.ContextBuilder
