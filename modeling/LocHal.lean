import LocHal.Lib.Machine
import LocHal.Lib.PriorityQueue
import LocHal.Utils.LocHeap
import LocHal.Lib.UnorderedSet
import LocHal.Utils.LocUnorderedSetMap
import LocHal.Core.SystemStatusOsObserver
import LocHal.Location.LocationTypes
import LocHal.Gnss.Tracking
import LocHal.Gnss.Agps
import LocHal.Gnss.AgpsConnection
import LocHal.Gnss.AgpsCallbacks
import LocHal.Gnss.AgpsManager
import LocHal.Gnss.AgpsReleases
import LocHal.Utils.LocTimer
import LocHal.Utils.LocTimerWakeup
import LocHal.Utils.LocTimerExpiry
import LocHal.Location.BiDict
import LocHal.Location.LocationAPIClientBase
import LocHal.Location.HalSessions
import LocHal.Location.ResponseCorrelation
import LocHal.Gnss.AgpsLists
import LocHal.Gnss.AgpsRequests
import LocHal.Gnss.DSDataCalls
import LocHal.Gnss.PowerVote
import LocHal.Core.FrameworkActionReq
import LocHal.Gnss.TrackingMode
import LocHal.Core.FrameworkSubscriptions
import LocHal.Gnss.AgpsQueue
import LocHal.Gnss.AgpsFallback
import LocHal.Gnss.Odcpi
import LocHal.Location.Geofences
import LocHal.Utils.LocTimerQuiet
import LocHal.Location.LocationAPI
import LocHal.Location.LocationAPIControlClient
import LocHal.Lib.Numeral
import LocHal.Lib.Tokens
import LocHal.Utils.LocCfg
import LocHal.Utils.LocCfgUpdate
import LocHal.Utils.LocIpc
import LocHal.Utils.LocIpcSenders
import LocHal.Gnss.NiSessions
import LocHal.Gnss.NiResponses
import LocHal.Location.SessionDictionary
import LocHal.Gnss.ClientRemoval
import LocHal.Utils.LinkedList
import LocHal.Utils.MsgQ
import LocHal.Gnss.XtraSystemStatusObserver
import LocHal.Gnss.EventMask
import LocHal.Gnss.GnssUpdateConfig
import LocHal.Core.SystemStatus
import LocHal.Core.NetworkInfo
import LocHal.Core.DataItemNotify
import LocHal.Utils.LocTimerRestart
import LocHal.Utils.LocProcessConf
import LocHal.Utils.LocProcessBlocks
import LocHal.Utils.LocHeapBalance
import LocHal.Gnss.SuplHostServer
import LocHal.Gnss.OdcpiTimer
import LocHal.Gnss.ReportSv
import LocHal.Utils.LocTimerDelay
import LocHal.Core.DebugNmea
import LocHal.Lib.BoundedLog
import LocHal.Core.NmeaReports
import LocHal.Core.ReportCache
import LocHal.Core.SetNmeaString
import LocHal.Gnss.AgpsGrants
import LocHal.Gnss.DSRetries
import LocHal.Lib.ByteMemory
import LocHal.Utils.LocReadConf
import LocHal.Utils.LocConfLine
import LocHal.Utils.LocConfBytes
import LocHal.Utils.LocProcessLists
import LocHal.Location.GeofenceCalls
import LocHal.Location.TrackingFlag
import LocHal.Location.ConfigUpdates
import LocHal.Lib.BinaryFloat
import LocHal.Lib.Printf
import LocHal.Utils.LocNmea
import LocHal.Utils.LocNmeaLength
import LocHal.Utils.LocNmeaReports
import LocHal.Utils.LocTrimSpace
import LocHal.Utils.LocSplitString
import LocHal.Utils.LinkedListSearch
import LocHal.Core.LocApiAdapters
import LocHal.Utils.LocNmeaGsv
import LocHal.Utils.LocNmeaGsa
import LocHal.Utils.LocNmeaExact
import LocHal.Recovery.BoyerMooreExact
import LocHal.Lib.SharedCount
import LocHal.Lib.WhileLoop
import LocHal.Utils.LocThread
import LocHal.Utils.MsgTask
import LocHal.Shims.Strdup16to8
import LocHal.Shims.Strdup8to16
import LocHal.Lib.Registers
import LocHal.Light.Lights
import LocHal.Core.SubscriberViews
import LocHal.Gnss.TrackingInterface
import LocHal.Display.MixedDisplayModes
import LocHal.Lib.Overlay
import LocHal.Android.Gnss
import LocHal.Android.GnssAPIClient
import LocHal.Core.SentenceRoundTrip
import LocHal.Gnss.Reports
import LocHal.Doze.DozeService
import LocHal.Thermal.CpuUsages
