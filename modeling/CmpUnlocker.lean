import CmpUnlocker.Lib.Prog
import CmpUnlocker.Lib.Text
import CmpUnlocker.Lib.Shell
import CmpUnlocker.Lib.Keyed
import CmpUnlocker.Lib.Bytes
import CmpUnlocker.Lib.Bits
import CmpUnlocker.Lib.Chain
import CmpUnlocker.Lib.Layout
import CmpUnlocker.Lib.JsonText
import CmpUnlocker.Cupti.Basic
import CmpUnlocker.Cupti.Bank
import CmpUnlocker.Cupti.Collect
import CmpUnlocker.Cupti.Machine
import CmpUnlocker.Cupti.Calm
import CmpUnlocker.Cupti.Requests
import CmpUnlocker.Cupti.Wakeup
import CmpUnlocker.Cupti.Selection
import CmpUnlocker.Cupti.Windows
import CmpUnlocker.Cupti.Tidy
import CmpUnlocker.Cupti.Report
import CmpUnlocker.Cupti.Flags
import CmpUnlocker.Cupti.Periods
import CmpUnlocker.Cupti.Custody
import CmpUnlocker.Cupti.Pieces
import CmpUnlocker.Cupti.Setup
import CmpUnlocker.Cupti.Teardown
import CmpUnlocker.Clock.Basic
import CmpUnlocker.Clock.Transaction
import CmpUnlocker.Clock.Gates
import CmpUnlocker.Clock.Arrays
import CmpUnlocker.Clock.Readings
import CmpUnlocker.Gemm.Config
import CmpUnlocker.Gemm.Checks
import CmpUnlocker.Gemm.RunAll
import CmpUnlocker.Gemm.Results
import CmpUnlocker.Gemm.Main
import CmpUnlocker.Gemm.Strikes
import CmpUnlocker.Gemm.Interrupt
import CmpUnlocker.Gemm.Reports
import CmpUnlocker.Gemm.Exit
import CmpUnlocker.Gemm.Ratio
import CmpUnlocker.PcieHost.Basic
import CmpUnlocker.PcieHost.Run
import CmpUnlocker.PcieHost.Walk
import CmpUnlocker.PcieHost.Quiet
import CmpUnlocker.PcieHost.Heard
import CmpUnlocker.PcieHost.Latch
import CmpUnlocker.PcieHost.Checked
import CmpUnlocker.PcieHost.Pass
import CmpUnlocker.Guest.Common
import CmpUnlocker.PcieGen2.Basic
import CmpUnlocker.PcieGen2.Script
import CmpUnlocker.PcieGen2.Backup
import CmpUnlocker.PcieGen2.Recovery
import CmpUnlocker.PcieGen2.Status
import CmpUnlocker.PcieGen2.Handover
import CmpUnlocker.PcieGen2.Identity
import CmpUnlocker.Top.Words
import CmpUnlocker.Top.Segments
import CmpUnlocker.Top.Capture
import CmpUnlocker.Top.Snapshots
import CmpUnlocker.Top.Derived
import CmpUnlocker.Top.Order
import CmpUnlocker.Top.Rearranged
import CmpUnlocker.TensorUnlock.Script
import CmpUnlocker.TensorUnlock.Firmware
import CmpUnlocker.Payloads.Ucode
import CmpUnlocker.Analysis.TpcRequest
import CmpUnlocker.Analysis.MmioCalls
import CmpUnlocker.HbmBoot.Script
import CmpUnlocker.HbmBoot.Lock
import CmpUnlocker.HbmBoot.Exit
import CmpUnlocker.Stages.Records
import CmpUnlocker.Stages.Validate
import CmpUnlocker.Stages.Capture
import CmpUnlocker.Stages.Registers
import CmpUnlocker.Stages.Sequence
import CmpUnlocker.Stages.Lines
import CmpUnlocker.Stages.Printed
import CmpUnlocker.Stages.Represented
import CmpUnlocker.Stages.Valid
import CmpUnlocker.Stages.Changes
import CmpUnlocker.Stages.Foreign
import CmpUnlocker.Stages.Renumber
import CmpUnlocker.Stages.Resets
import CmpUnlocker.Gpumon.Metrics
import CmpUnlocker.Gpumon.Mapping
import CmpUnlocker.Gpumon.Relay
import CmpUnlocker.Gpumon.History
import CmpUnlocker.Cupti.Escape
import CmpUnlocker.Cupti.Values
import CmpUnlocker.Cupti.ReportText
import CmpUnlocker.Analysis.Inforom
import CmpUnlocker.Analysis.Occurrences
import CmpUnlocker.Gpumon.Addresses
import CmpUnlocker.Gpumon.Ordinals
import CmpUnlocker.Analysis.PlmBaseline
import CmpUnlocker.Gpumon.Source
import CmpUnlocker.AcrHook.Handlers
import CmpUnlocker.AcrHook.Stores
import CmpUnlocker.AcrHook.Loading
import CmpUnlocker.AcrHook.Descriptors
import CmpUnlocker.Devinit.TpcPath
import CmpUnlocker.Devinit.TpcDecode
import CmpUnlocker.Payloads.Build
import CmpUnlocker.Install.Script
import CmpUnlocker.Install.Effects
import CmpUnlocker.Install.Retry
