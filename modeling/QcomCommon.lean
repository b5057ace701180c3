import QcomCommon.TransitionProofs
import QcomCommon.SweepProofs
import QcomCommon.LeaseProofs
import QcomCommon.AgpsMachineProofs
import QcomCommon.AgpsStepProofs
import QcomCommon.AgpsInvariantProofs
import QcomCommon.LeaseProviderProofs
import QcomCommon.AgpsFrameworkProofs
import QcomCommon.AgpsAnswerProofs
import QcomCommon.DsMachineProofs
import QcomCommon.DsRunProofs
import QcomCommon.DsRetryProofs
import QcomCommon.DsHandleProofs
import QcomCommon.AgpsOriginProofs
import QcomCommon.AgpsEngineProofs
import QcomCommon.FramingProofs
import QcomCommon.DmnConnProofs
import QcomCommon.NiConsentProofs
import QcomCommon.NiRespondProofs
import QcomCommon.NiPayloadProofs
import QcomCommon.LocEngMachineProofs
import QcomCommon.LocEngMuteProofs
import QcomCommon.LocEngRestartProofs
import QcomCommon.LocEngAidingProofs
import QcomCommon.LocEngServerProofs
import QcomCommon.LocHeapProofs
import QcomCommon.LocHeapOrderProofs
import QcomCommon.LocTimerProofs
import QcomCommon.LocTimerArmedProofs
import QcomCommon.LocTimerDueProofs
import QcomCommon.LocTimerIdleProofs
import QcomCommon.LocTimerOnceProofs
import QcomCommon.LocTimerRankProofs
import QcomCommon.LocTimerHandleProofs
import QcomCommon.LinkedListProofs
import QcomCommon.LinkedListSearchProofs
import QcomCommon.LinkedListRunProofs
import QcomCommon.MsgQueueProofs
import QcomCommon.MsgTaskProofs
import QcomCommon.LocThreadProofs
import QcomCommon.AssignProofs
import QcomCommon.LocCfgProofs
import QcomCommon.LocCfgPathsProofs
import QcomCommon.LocCfgLastProofs
import QcomCommon.LocConfUpdateProofs
import QcomCommon.LightsProofs
import QcomCommon.CameraProofs
import QcomCommon.BufferProofs
import QcomCommon.SubstringProofs
import QcomCommon.BmTableProofs
import QcomCommon.BmSearchProofs
import QcomCommon.TrustZoneProofs
import QcomCommon.AgpsNotifyProofs
import QcomCommon.AgpsLiveProofs
import QcomCommon.AgpsViewProofs
import QcomCommon.AgpsInitProofs
import QcomCommon.AgpsIdentityProofs
import QcomCommon.LeaseIdentityProofs
import QcomCommon.ByteMemoryProofs
import QcomCommon.MsgRcvProofs
import QcomCommon.DmnRequestProofs
import QcomCommon.SvReportProofs
import QcomCommon.CStringProofs
import QcomCommon.NmeaSentenceProofs
import QcomCommon.EarlyReturnProofs
import QcomCommon.PrintfProofs
import QcomCommon.NmeaWriterProofs
import QcomCommon.NmeaSvProofs
import QcomCommon.NmeaPosProofs
import QcomCommon.NmeaGsaProofs
import QcomCommon.NmeaLatLonProofs
import QcomCommon.SlotTableProofs
import QcomCommon.LocApiBaseProofs
import QcomCommon.PercentProofs
import QcomCommon.UserAgentProofs
import QcomCommon.BalanceProofs
import QcomCommon.BitCountProofs
import QcomCommon.CameraParamsProofs
import QcomCommon.CertificateProofs
import QcomCommon.LocHeapBalanceProofs
import QcomCommon.NmeaTrackProofs
import QcomCommon.SerialNoProofs
import QcomCommon.SplitStringProofs
import QcomCommon.TrimSpaceProofs
import QcomCommon.WcnssProofs
import QcomCommon.WhileLoopProofs
import QcomCommon.SortedMapProofs
import QcomCommon.CodecProofs
import QcomCommon.ParcelProofs
import QcomCommon.VendorTagProofs
import QcomCommon.VendorTagParcelProofs
import QcomCommon.VendorTagTripProofs
import QcomCommon.ThelperProofs
import QcomCommon.SessionProofs
import QcomCommon.BinderProofs
import QcomCommon.CameraDeviceUserProofs
import QcomCommon.ChannelProofs
import QcomCommon.CameraCallbacksProofs
import QcomCommon.CameraServiceProofs
import QcomCommon.OwnershipProofs
import QcomCommon.CameraMetadataProofs
import QcomCommon.CameraMetadataOwnerProofs
import QcomCommon.KeyedListProofs
import QcomCommon.CameraParams2Proofs
import QcomCommon.CameraSizesProofs
import QcomCommon.CameraClientProofs
import QcomCommon.HexcodeProofs
import QcomCommon.ICameraProofs
import QcomCommon.UlpProxyProofs
