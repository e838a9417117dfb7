import Rtl8814au.Lib.Bytes
import Rtl8814au.Lib.Ccm
import Rtl8814au.Lib.Rfc3610
import Rtl8814au.Lib.Checked
import Rtl8814au.Lib.Hmac
import Rtl8814au.Lib.Gf256
import Rtl8814au.Lib.Fields
import Rtl8814au.Lib.KeyWrap
import Rtl8814au.Lib.KeyLedger
import Rtl8814au.Lib.Lts
import Rtl8814au.Crypto.Aes
import Rtl8814au.Crypto.AesInverse
import Rtl8814au.Crypto.AesConforms
import Rtl8814au.Crypto.Ccmp
import Rtl8814au.Crypto.CcmpCorrect
import Rtl8814au.Crypto.Sha1
import Rtl8814au.Spec.Sha1
import Rtl8814au.Spec.Rfc3174
import Rtl8814au.Spec.Fips197
import Rtl8814au.Spec.KeyDerivation
import Rtl8814au.Crypto.Sha1Correct
import Rtl8814au.Crypto.Sha1Standard
import Rtl8814au.Crypto.Sha1Machine
import Rtl8814au.Crypto.KeyDerivation
import Rtl8814au.Crypto.Prf384
import Rtl8814au.Crypto.Unwrap
import Rtl8814au.Crypto.UnwrapCorrect
import Rtl8814au.Spec.Authenticator
import Rtl8814au.Device.State
import Rtl8814au.Device.Data
import Rtl8814au.Device.Join
import Rtl8814au.Device.Eapol
import Rtl8814au.Device.Ioctl
import Rtl8814au.Device.System
import Rtl8814au.Device.RxSafety
import Rtl8814au.Device.KeyState
import Rtl8814au.Device.Steps
import Rtl8814au.Device.KeySafety
import Rtl8814au.Device.RxAuth
import Rtl8814au.Device.KeyData
import Rtl8814au.Device.KdeBounds
import Rtl8814au.Device.Handshake
import Rtl8814au.Device.PairwiseKeys
import Rtl8814au.Spec.Ccmp
import Rtl8814au.Spec.Mpdu
import Rtl8814au.Crypto.CcmpFrames
import Rtl8814au.Crypto.CcmpStandard
import Rtl8814au.Crypto.CcmpMasking
import Rtl8814au.Spec.AccessPoint
import Rtl8814au.Device.Decapsulation
import Rtl8814au.Device.Delivery
import Rtl8814au.Device.HandshakeDone
import Rtl8814au.Device.SupplicantKeys
import Rtl8814au.Device.Association
import Rtl8814au.Device.EapolRouting
import Rtl8814au.Device.Retransmission
import Rtl8814au.RxPath.Descriptor
import Rtl8814au.RxPath.Ownership
import Rtl8814au.RxPath.Walk
import Rtl8814au.RxPath.Bounds
import Rtl8814au.TxPath.Slots
import Rtl8814au.WiFi.Manager
import Rtl8814au.Device.Station
import Rtl8814au.Driver.Lifetime
import Rtl8814au.Device.LinkState
import Rtl8814au.Device.Scan
import Rtl8814au.Device.Handles
import Rtl8814au.Lib.Ring
import Rtl8814au.Device.RxRing
import Rtl8814au.RegisterIO.Bounded
import Rtl8814au.RegisterIO.ControlRing
import Rtl8814au.Device.ScanRequest
import Rtl8814au.Device.Disconnect
import Rtl8814au.Device.RefusedJoin
import Rtl8814au.WiFi.BssList
import Rtl8814au.Device.JoinChannel
import Rtl8814au.Lib.Elements
import Rtl8814au.Device.AssocRequest
import Rtl8814au.Device.RsnIe
import Rtl8814au.Device.EapolBounds
import Rtl8814au.Device.RxFifo
import Rtl8814au.Device.Bridging
import Rtl8814au.Lib.Fifo
import Rtl8814au.Device.RxQueue
import Rtl8814au.WiFi.BssTable
import Rtl8814au.Device.BeaconParser
import Rtl8814au.Lib.Records
import Rtl8814au.Device.ScanResults
import Rtl8814au.TxPath.Descriptor
import Rtl8814au.TxPath.FirmwareChunk
import Rtl8814au.Lib.Dialogue
import Rtl8814au.RegisterIO.Access
import Rtl8814au.Firmware.Image
import Rtl8814au.Firmware.Transfer
import Rtl8814au.Firmware.Load
import Rtl8814au.EfuseReader.Decode
import Rtl8814au.RegisterIO.Poll
import Rtl8814au.EfuseReader.ReadByte
import Rtl8814au.EfuseReader.Bounds
import Rtl8814au.WiFi.Mailbox
import Rtl8814au.PhyConfig.Power
import Rtl8814au.RegisterIO.Transport
import Rtl8814au.RegisterIO.Masked
import Rtl8814au.PhyConfig.GainTables
import Rtl8814au.PhyConfig.Channel
import Rtl8814au.PhyConfig.Chip
import Rtl8814au.PhyConfig.History
import Rtl8814au.Lib.RegisterFile
import Rtl8814au.Lib.Staged
import Rtl8814au.Lib.Worker
import Rtl8814au.Device.Cam
import Rtl8814au.Device.InstallKeys
import Rtl8814au.Device.Endpoints
import Rtl8814au.Device.EapolInbox
import Rtl8814au.Device.PostAssoc
import Rtl8814au.Device.BringUp
import Rtl8814au.Device.MacInit
import Rtl8814au.Driver.DeviceList
import Rtl8814au.WiFi.Commands
import Rtl8814au.WiFi.Interrupt
import Rtl8814au.PhyConfig.InitTable
import Rtl8814au.PhyConfig.ColdStart
import Rtl8814au.Lib.UserMemory
import Rtl8814au.Device.Control
import Rtl8814au.Device.ControlBounds
import Rtl8814au.Device.ControlRuns
import Rtl8814au.Device.ControlRequests
import Rtl8814au.Device.Snonce
import Rtl8814au.Lib.Scanf
import Rtl8814au.Tools.WifiJoin
