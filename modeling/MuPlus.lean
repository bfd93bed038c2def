import MuPlus.Lib.ByteMem
import MuPlus.AdvLogger.Layout
import MuPlus.AdvLogger.Write
import MuPlus.AdvLogger.Access
import MuPlus.AdvLogger.Concurrent
import MuPlus.AdvLogger.FormattedLine
import MuPlus.Lib.Gf2Poly
import MuPlus.Qr.Format
import MuPlus.Lib.Interaction
import MuPlus.Mfci.Dxe
import MuPlus.Mfci.Spec
import MuPlus.Mfci.Boot
import MuPlus.Dfci.Permission
import MuPlus.Lib.ExceptOk
import MuPlus.Dfci.PermissionSpec
import MuPlus.Dfci.Identity
import MuPlus.Dfci.Settings
import MuPlus.Dfci.SettingsSpec
import MuPlus.Dfci.PermissionBoot
import MuPlus.Uefi.SafeString
import MuPlus.Json.LiteParser
import MuPlus.Json.LiteParserSpec
import MuPlus.Lib.WordSum
import MuPlus.Whea.EarlyStorage
import MuPlus.Whea.EarlyStorageMgr
import MuPlus.Whea.EarlyStorageRun
import MuPlus.Lib.Machine
import MuPlus.Whea.EarlyStorageProcess
import MuPlus.Whea.EarlyStorageBoot
import MuPlus.AdvLogger.DxeCore
import MuPlus.MathLib.Sqrt
import MuPlus.AdvLogger.MmAccess
import MuPlus.Mfci.Xdr
import MuPlus.Qr.Analysis
import MuPlus.Qr.Render
import MuPlus.Qr.Encode
import MuPlus.Qr.Interleave
import MuPlus.Qr.Penalty
import MuPlus.Uefi.VariableList
import MuPlus.Whea.Cper
import MuPlus.Whea.ReportHer
import MuPlus.Queue.UefiVariable
import MuPlus.Queue.Spec
import MuPlus.Xml.Escape
import MuPlus.Xml.Tree
import MuPlus.Lib.RingQueue
import MuPlus.Hid.Keyboard
import MuPlus.Hid.KeyboardSpec
import MuPlus.Hid.KeyboardRun
import MuPlus.Hid.Modifiers
import MuPlus.Mfci.PolicyParsing
import MuPlus.Lib.PolyCoeffs
import MuPlus.Qr.ErrorCorrection
