import TrebleDoze.Lib.Lts
import TrebleDoze.Lib.Trace
import TrebleDoze.Lib.Loop
import TrebleDoze.Lib.Fifo
import TrebleDoze.Fingerprint.Hal
import TrebleDoze.Fingerprint.Queue
import TrebleDoze.Fingerprint.Threads
import TrebleDoze.Fingerprint.Commands
import TrebleDoze.Fingerprint.Presses
import TrebleDoze.Fingerprint.LightArea
import TrebleDoze.Bluetooth.Types
import TrebleDoze.Bluetooth.Session
import TrebleDoze.Bluetooth.SessionHidl
import TrebleDoze.Bluetooth.SessionControl
import TrebleDoze.Bluetooth.Port
import TrebleDoze.Bluetooth.Stream
import TrebleDoze.Bluetooth.PortSystem
import TrebleDoze.Bluetooth.Readiness
import TrebleDoze.Bluetooth.Provider
import TrebleDoze.Bluetooth.DataPath
import TrebleDoze.Bluetooth.A2dpBits
import TrebleDoze.Bluetooth.A2dpCodec
import TrebleDoze.Bluetooth.A2dpSbc
import TrebleDoze.Bluetooth.A2dpAac
import TrebleDoze.Bluetooth.A2dpFactory
import TrebleDoze.Bluetooth.LeAudioTypes
import TrebleDoze.Bluetooth.LeAudioMatch
import TrebleDoze.Bluetooth.LeAudioAse
import TrebleDoze.Bluetooth.LeAudioQos
import TrebleDoze.Bluetooth.LeAudioBroadcast
import TrebleDoze.Bluetooth.LeAudioConfigurationData
import TrebleDoze.Bluetooth.LeAudioSettingLoader
import TrebleDoze.Bluetooth.LeAudioSetting
import TrebleDoze.Bluetooth.LeAudioCodecsProvider
import TrebleDoze.Bluetooth.LeAudioOffloadCodecs
import TrebleDoze.Bluetooth.LeAudioCapabilities
import TrebleDoze.Bluetooth.LeAudioBroadcastSettings
import TrebleDoze.Lib.LittleEndian
import TrebleDoze.Lib.Exit
import TrebleDoze.Simg2img.Format
import TrebleDoze.Simg2img.SendFile
import TrebleDoze.Simg2img.Main
import TrebleDoze.Simg2img.Image
import TrebleDoze.Simg2img.TotalBlocks
import TrebleDoze.Ota.Slots
import TrebleDoze.Bluetooth.HidlSingleBit
import TrebleDoze.Bluetooth.AudioCodecs
import TrebleDoze.Bluetooth.HidlCodecs
import TrebleDoze.Bluetooth.HidlBridge
import TrebleDoze.Bluetooth.HidlLeAudio
import TrebleDoze.Lib.Pool
import TrebleDoze.Bluetooth.AudioConfig
import TrebleDoze.Bluetooth.Cookies
import TrebleDoze.Bluetooth.ProviderConfig
import TrebleDoze.Audio.StreamThread
import TrebleDoze.Audio.StreamClose
import TrebleDoze.Audio.Device
import TrebleDoze.Bluetooth.OutStream
import TrebleDoze.Bluetooth.Presentation
import TrebleDoze.Lib.Threads
import TrebleDoze.Bluetooth.StreamSystem
import TrebleDoze.Bluetooth.InStream
import TrebleDoze.Bluetooth.SessionEnd
import TrebleDoze.Bluetooth.Suspension
import TrebleDoze.Bluetooth.FrameCount
import TrebleDoze.Bluetooth.Middleware
import TrebleDoze.Lib.StepSearch
import TrebleDoze.Bluetooth.A2dpBitpool
import TrebleDoze.Bluetooth.A2dpAccepted
import TrebleDoze.Bluetooth.A2dpHints
import TrebleDoze.Bluetooth.SessionStart
import TrebleDoze.Audio.FastPath
import TrebleDoze.Audio.Served
import TrebleDoze.Bluetooth.HidlOffloadCapabilities
import TrebleDoze.Bluetooth.TracksMetadata
import TrebleDoze.Bluetooth.PresentationFrames
import TrebleDoze.Bluetooth.WritePacing
import TrebleDoze.Bluetooth.StereoToMono
import TrebleDoze.Bluetooth.SessionHidl21
import TrebleDoze.Bluetooth.LoadAudioConfig
import TrebleDoze.Bluetooth.LatencyModes
import TrebleDoze.Bluetooth.LeAudioQueueSize
import TrebleDoze.Lib.CString
import TrebleDoze.Bluetooth.ParseAudioParams
import TrebleDoze.Bluetooth.A2dpBitsWords
import TrebleDoze.Audio.BufferSize
import TrebleDoze.Cmds.GetSpl
import TrebleDoze.Cmds.Uevent
import TrebleDoze.Lib.Pages
import TrebleDoze.Fingerprint.GoodixPath
import TrebleDoze.Lib.Wire
import TrebleDoze.Cmds.Persistprops
import TrebleDoze.Lib.Relay
import TrebleDoze.OplusFp.Shim
import TrebleDoze.OplusFp.Cancel
import TrebleDoze.OplusFp.Enumerate
import TrebleDoze.Simg2img.Transfer
import TrebleDoze.Simg2img.SameCopy
import TrebleDoze.Bluetooth.AudioDevice
import TrebleDoze.Bluetooth.AudioDeviceLoop
import TrebleDoze.Bluetooth.AudioDeviceSuspension
import TrebleDoze.Bluetooth.A2dpNegotiation
import TrebleDoze.Bluetooth.LeAudioSettingFiles
import TrebleDoze.Bluetooth.PcmCalls
import TrebleDoze.Bluetooth.ProviderDeaths
import TrebleDoze.Bluetooth.TrackTags
import TrebleDoze.Bluetooth.AdvertisedCapabilities
import TrebleDoze.Fingerprint.Notify
import TrebleDoze.Bluetooth.Playback
import TrebleDoze.Bluetooth.PlaybackRuns
import TrebleDoze.Bluetooth.PlaybackProgress
