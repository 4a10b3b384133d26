import Mathlib.Data.List.Pairwise
import UniRil.Sim.BusyPoll

/-!
# What becomes of a request (sprd_ril.c)

`processRequest` answers some requests on its own, asks the files one after the other, and gives the memory of the
request back at the end of each way through it.
-/

namespace UniRil.Dispatch

open Sim.BusyPoll (RIL_RadioState)

/-! ## The codes of the requests -/

def RIL_REQUEST_GET_SIM_STATUS : Int := 1
def RIL_REQUEST_ENTER_SIM_PIN : Int := 2
def RIL_REQUEST_ENTER_SIM_PUK : Int := 3
def RIL_REQUEST_ENTER_SIM_PIN2 : Int := 4
def RIL_REQUEST_ENTER_SIM_PUK2 : Int := 5
def RIL_REQUEST_CHANGE_SIM_PIN : Int := 6
def RIL_REQUEST_CHANGE_SIM_PIN2 : Int := 7
def RIL_REQUEST_ENTER_NETWORK_DEPERSONALIZATION : Int := 8
def RIL_REQUEST_GET_CURRENT_CALLS : Int := 9
def RIL_REQUEST_DIAL : Int := 10
def RIL_REQUEST_GET_IMSI : Int := 11
def RIL_REQUEST_HANGUP : Int := 12
def RIL_REQUEST_HANGUP_WAITING_OR_BACKGROUND : Int := 13
def RIL_REQUEST_HANGUP_FOREGROUND_RESUME_BACKGROUND : Int := 14
def RIL_REQUEST_SWITCH_WAITING_OR_HOLDING_AND_ACTIVE : Int := 15
def RIL_REQUEST_CONFERENCE : Int := 16
def RIL_REQUEST_UDUB : Int := 17
def RIL_REQUEST_LAST_CALL_FAIL_CAUSE : Int := 18
def RIL_REQUEST_SIGNAL_STRENGTH : Int := 19
def RIL_REQUEST_VOICE_REGISTRATION_STATE : Int := 20
def RIL_REQUEST_DATA_REGISTRATION_STATE : Int := 21
def RIL_REQUEST_OPERATOR : Int := 22
def RIL_REQUEST_RADIO_POWER : Int := 23
def RIL_REQUEST_DTMF : Int := 24
def RIL_REQUEST_SEND_SMS : Int := 25
def RIL_REQUEST_SEND_SMS_EXPECT_MORE : Int := 26
def RIL_REQUEST_SETUP_DATA_CALL : Int := 27
def RIL_REQUEST_SIM_IO : Int := 28
def RIL_REQUEST_SEND_USSD : Int := 29
def RIL_REQUEST_CANCEL_USSD : Int := 30
def RIL_REQUEST_GET_CLIR : Int := 31
def RIL_REQUEST_SET_CLIR : Int := 32
def RIL_REQUEST_QUERY_CALL_FORWARD_STATUS : Int := 33
def RIL_REQUEST_SET_CALL_FORWARD : Int := 34
def RIL_REQUEST_QUERY_CALL_WAITING : Int := 35
def RIL_REQUEST_SET_CALL_WAITING : Int := 36
def RIL_REQUEST_SMS_ACKNOWLEDGE : Int := 37
def RIL_REQUEST_GET_IMEI : Int := 38
def RIL_REQUEST_GET_IMEISV : Int := 39
def RIL_REQUEST_ANSWER : Int := 40
def RIL_REQUEST_DEACTIVATE_DATA_CALL : Int := 41
def RIL_REQUEST_QUERY_FACILITY_LOCK : Int := 42
def RIL_REQUEST_SET_FACILITY_LOCK : Int := 43
def RIL_REQUEST_CHANGE_BARRING_PASSWORD : Int := 44
def RIL_REQUEST_QUERY_NETWORK_SELECTION_MODE : Int := 45
def RIL_REQUEST_SET_NETWORK_SELECTION_AUTOMATIC : Int := 46
def RIL_REQUEST_SET_NETWORK_SELECTION_MANUAL : Int := 47
def RIL_REQUEST_QUERY_AVAILABLE_NETWORKS : Int := 48
def RIL_REQUEST_DTMF_START : Int := 49
def RIL_REQUEST_DTMF_STOP : Int := 50
def RIL_REQUEST_BASEBAND_VERSION : Int := 51
def RIL_REQUEST_SEPARATE_CONNECTION : Int := 52
def RIL_REQUEST_SET_MUTE : Int := 53
def RIL_REQUEST_GET_MUTE : Int := 54
def RIL_REQUEST_QUERY_CLIP : Int := 55
def RIL_REQUEST_LAST_DATA_CALL_FAIL_CAUSE : Int := 56
def RIL_REQUEST_DATA_CALL_LIST : Int := 57
def RIL_REQUEST_RESET_RADIO : Int := 58
def RIL_REQUEST_OEM_HOOK_RAW : Int := 59
def RIL_REQUEST_OEM_HOOK_STRINGS : Int := 60
def RIL_REQUEST_SCREEN_STATE : Int := 61
def RIL_REQUEST_SET_SUPP_SVC_NOTIFICATION : Int := 62
def RIL_REQUEST_WRITE_SMS_TO_SIM : Int := 63
def RIL_REQUEST_DELETE_SMS_ON_SIM : Int := 64
def RIL_REQUEST_SET_BAND_MODE : Int := 65
def RIL_REQUEST_QUERY_AVAILABLE_BAND_MODE : Int := 66
def RIL_REQUEST_STK_GET_PROFILE : Int := 67
def RIL_REQUEST_STK_SEND_ENVELOPE_COMMAND : Int := 69
def RIL_REQUEST_STK_SEND_TERMINAL_RESPONSE : Int := 70
def RIL_REQUEST_STK_HANDLE_CALL_SETUP_REQUESTED_FROM_SIM : Int := 71
def RIL_REQUEST_EXPLICIT_CALL_TRANSFER : Int := 72
def RIL_REQUEST_SET_PREFERRED_NETWORK_TYPE : Int := 73
def RIL_REQUEST_GET_PREFERRED_NETWORK_TYPE : Int := 74
def RIL_REQUEST_GET_NEIGHBORING_CELL_IDS : Int := 75
def RIL_REQUEST_SET_LOCATION_UPDATES : Int := 76
def RIL_REQUEST_CDMA_SET_SUBSCRIPTION_SOURCE : Int := 77
def RIL_REQUEST_CDMA_SET_ROAMING_PREFERENCE : Int := 78
def RIL_REQUEST_CDMA_QUERY_ROAMING_PREFERENCE : Int := 79
def RIL_REQUEST_SET_TTY_MODE : Int := 80
def RIL_REQUEST_QUERY_TTY_MODE : Int := 81
def RIL_REQUEST_CDMA_SET_PREFERRED_VOICE_PRIVACY_MODE : Int := 82
def RIL_REQUEST_CDMA_QUERY_PREFERRED_VOICE_PRIVACY_MODE : Int := 83
def RIL_REQUEST_CDMA_FLASH : Int := 84
def RIL_REQUEST_CDMA_BURST_DTMF : Int := 85
def RIL_REQUEST_CDMA_SEND_SMS : Int := 87
def RIL_REQUEST_CDMA_SMS_ACKNOWLEDGE : Int := 88
def RIL_REQUEST_GSM_GET_BROADCAST_SMS_CONFIG : Int := 89
def RIL_REQUEST_GSM_SET_BROADCAST_SMS_CONFIG : Int := 90
def RIL_REQUEST_GSM_SMS_BROADCAST_ACTIVATION : Int := 91
def RIL_REQUEST_CDMA_GET_BROADCAST_SMS_CONFIG : Int := 92
def RIL_REQUEST_CDMA_SET_BROADCAST_SMS_CONFIG : Int := 93
def RIL_REQUEST_CDMA_SMS_BROADCAST_ACTIVATION : Int := 94
def RIL_REQUEST_CDMA_SUBSCRIPTION : Int := 95
def RIL_REQUEST_CDMA_WRITE_SMS_TO_RUIM : Int := 96
def RIL_REQUEST_CDMA_DELETE_SMS_ON_RUIM : Int := 97
def RIL_REQUEST_DEVICE_IDENTITY : Int := 98
def RIL_REQUEST_EXIT_EMERGENCY_CALLBACK_MODE : Int := 99
def RIL_REQUEST_GET_SMSC_ADDRESS : Int := 100
def RIL_REQUEST_SET_SMSC_ADDRESS : Int := 101
def RIL_REQUEST_REPORT_SMS_MEMORY_STATUS : Int := 102
def RIL_REQUEST_REPORT_STK_SERVICE_IS_RUNNING : Int := 103
def RIL_REQUEST_CDMA_GET_SUBSCRIPTION_SOURCE : Int := 104
def RIL_REQUEST_ISIM_AUTHENTICATION : Int := 105
def RIL_REQUEST_ACKNOWLEDGE_INCOMING_GSM_SMS_WITH_PDU : Int := 106
def RIL_REQUEST_STK_SEND_ENVELOPE_WITH_STATUS : Int := 107
def RIL_REQUEST_VOICE_RADIO_TECH : Int := 108
def RIL_REQUEST_GET_CELL_INFO_LIST : Int := 109
def RIL_REQUEST_SET_UNSOL_CELL_INFO_LIST_RATE : Int := 110
def RIL_REQUEST_SET_INITIAL_ATTACH_APN : Int := 111
def RIL_REQUEST_IMS_REGISTRATION_STATE : Int := 112
def RIL_REQUEST_IMS_SEND_SMS : Int := 113
def RIL_REQUEST_SIM_TRANSMIT_APDU_BASIC : Int := 114
def RIL_REQUEST_SIM_OPEN_CHANNEL : Int := 115
def RIL_REQUEST_SIM_CLOSE_CHANNEL : Int := 116
def RIL_REQUEST_SIM_TRANSMIT_APDU_CHANNEL : Int := 117
def RIL_REQUEST_NV_READ_ITEM : Int := 118
def RIL_REQUEST_NV_WRITE_ITEM : Int := 119
def RIL_REQUEST_NV_WRITE_CDMA_PRL : Int := 120
def RIL_REQUEST_NV_RESET_CONFIG : Int := 121
def RIL_REQUEST_SET_UICC_SUBSCRIPTION : Int := 122
def RIL_REQUEST_ALLOW_DATA : Int := 123
def RIL_REQUEST_GET_HARDWARE_CONFIG : Int := 124
def RIL_REQUEST_SIM_AUTHENTICATION : Int := 125
def RIL_REQUEST_SET_DATA_PROFILE : Int := 128
def RIL_REQUEST_SHUTDOWN : Int := 129
def RIL_REQUEST_GET_RADIO_CAPABILITY : Int := 130
def RIL_REQUEST_SET_RADIO_CAPABILITY : Int := 131
def RIL_REQUEST_START_LCE : Int := 132
def RIL_REQUEST_STOP_LCE : Int := 133
def RIL_REQUEST_PULL_LCEDATA : Int := 134
def RIL_REQUEST_GET_ACTIVITY_INFO : Int := 135
def RIL_REQUEST_SET_CARRIER_RESTRICTIONS : Int := 136
def RIL_REQUEST_GET_CARRIER_RESTRICTIONS : Int := 137
def RIL_REQUEST_SEND_DEVICE_STATE : Int := 138
def RIL_REQUEST_SET_UNSOLICITED_RESPONSE_FILTER : Int := 139
def RIL_REQUEST_SET_SIM_CARD_POWER : Int := 140
def RIL_REQUEST_SET_CARRIER_INFO_IMSI_ENCRYPTION : Int := 141
def RIL_REQUEST_START_NETWORK_SCAN : Int := 142
def RIL_REQUEST_STOP_NETWORK_SCAN : Int := 143
def RIL_REQUEST_START_KEEPALIVE : Int := 144
def RIL_REQUEST_STOP_KEEPALIVE : Int := 145
def RIL_EXT_REQUEST_VIDEOPHONE_DIAL : Int := 4001
def RIL_EXT_REQUEST_VIDEOPHONE_CODEC : Int := 4002
def RIL_EXT_REQUEST_VIDEOPHONE_FALLBACK : Int := 4003
def RIL_EXT_REQUEST_VIDEOPHONE_STRING : Int := 4004
def RIL_EXT_REQUEST_VIDEOPHONE_LOCAL_MEDIA : Int := 4005
def RIL_EXT_REQUEST_VIDEOPHONE_CONTROL_IFRAME : Int := 4006
def RIL_EXT_REQUEST_SWITCH_MULTI_CALL : Int := 4007
def RIL_EXT_REQUEST_TRAFFIC_CLASS : Int := 4008
def RIL_EXT_REQUEST_ENABLE_LTE : Int := 4009
def RIL_EXT_REQUEST_ATTACH_DATA : Int := 4010
def RIL_EXT_REQUEST_STOP_QUERY_NETWORK : Int := 4011
def RIL_EXT_REQUEST_FORCE_DETACH : Int := 4012
def RIL_EXT_REQUEST_GET_HD_VOICE_STATE : Int := 4013
def RIL_EXT_REQUEST_SIMMGR_SIM_POWER : Int := 4014
def RIL_EXT_REQUEST_ENABLE_RAU_NOTIFY : Int := 4015
def RIL_EXT_REQUEST_SET_COLP : Int := 4016
def RIL_EXT_REQUEST_GET_DEFAULT_NAN : Int := 4017
def RIL_EXT_REQUEST_SIM_GET_ATR : Int := 4018
def RIL_EXT_REQUEST_EXPLICIT_CALL_TRANSFER : Int := 4019
def RIL_EXT_REQUEST_GET_SIM_CAPACITY : Int := 4020
def RIL_EXT_REQUEST_STORE_SMS_TO_SIM : Int := 4021
def RIL_EXT_REQUEST_QUERY_SMS_STORAGE_MODE : Int := 4022
def RIL_EXT_REQUEST_GET_SIMLOCK_REMAIN_TIMES : Int := 4023
def RIL_EXT_REQUEST_SET_FACILITY_LOCK_FOR_USER : Int := 4024
def RIL_EXT_REQUEST_GET_SIMLOCK_STATUS : Int := 4025
def RIL_EXT_REQUEST_GET_SIMLOCK_DUMMYS : Int := 4026
def RIL_EXT_REQUEST_GET_SIMLOCK_WHITE_LIST : Int := 4027
def RIL_EXT_REQUEST_UPDATE_ECCLIST : Int := 4028
def RIL_EXT_REQUEST_GET_BAND_INFO : Int := 4029
def RIL_EXT_REQUEST_SET_BAND_INFO_MODE : Int := 4030
def RIL_EXT_REQUEST_SET_SINGLE_PDN : Int := 4031
def RIL_EXT_REQUEST_SET_SPECIAL_RATCAP : Int := 4032
def RIL_EXT_REQUEST_QUERY_COLP : Int := 4033
def RIL_EXT_REQUEST_QUERY_COLR : Int := 4034
def RIL_EXT_REQUEST_MMI_ENTER_SIM : Int := 4035
def RIL_EXT_REQUEST_UPDATE_OPERATOR_NAME : Int := 4036
def RIL_EXT_REQUEST_SIMMGR_GET_SIM_STATUS : Int := 4037
def RIL_EXT_REQUEST_SET_XCAP_IP_ADDR : Int := 4038
def RIL_EXT_REQUEST_SEND_CMD : Int := 4039
def RIL_EXT_REQUEST_GET_SIM_STATUS : Int := 4040
def RIL_EXT_REQUEST_REATTACH : Int := 4041
def RIL_EXT_REQUEST_SET_PREFERRED_NETWORK_TYPE : Int := 4042
def RIL_EXT_REQUEST_SHUTDOWN : Int := 4043
def RIL_EXT_REQUEST_SET_SMS_BEARER : Int := 4044
def RIL_EXT_REQUEST_SET_VOICE_DOMAIN : Int := 4045
def RIL_EXT_REQUEST_UPDATE_CLIP : Int := 4046
def RIL_EXT_REQUEST_SET_TPMR_STATE : Int := 4047
def RIL_EXT_REQUEST_GET_TPMR_STATE : Int := 4048
def RIL_EXT_REQUEST_SET_VIDEO_RESOLUTION : Int := 4049
def RIL_EXT_REQUEST_ENABLE_LOCAL_HOLD : Int := 4050
def RIL_EXT_REQUEST_ENABLE_WIFI_PARAM_REPORT : Int := 4051
def RIL_EXT_REQUEST_CALL_MEDIA_CHANGE_REQUEST_TIMEOUT : Int := 4052
def RIL_EXT_REQUEST_SET_DUAL_VOLTE_STATE : Int := 4053
def RIL_EXT_REQUEST_SET_LOCAL_TONE : Int := 4054
def RIL_EXT_REQUEST_UPDATE_PLMN : Int := 4055
def RIL_EXT_REQUEST_QUERY_PLMN : Int := 4056
def RIL_EXT_REQUEST_SIM_POWER_REAL : Int := 4057
def RIL_EXT_REQUEST_GET_RADIO_PREFERENCE : Int := 4058
def RIL_EXT_REQUEST_SET_RADIO_PREFERENCE : Int := 4059
def RIL_REQUEST_GET_IMS_CURRENT_CALLS : Int := 4060
def RIL_REQUEST_SET_IMS_VOICE_CALL_AVAILABILITY : Int := 4061
def RIL_REQUEST_GET_IMS_VOICE_CALL_AVAILABILITY : Int := 4062
def RIL_REQUEST_INIT_ISIM : Int := 4063
def RIL_REQUEST_IMS_CALL_REQUEST_MEDIA_CHANGE : Int := 4064
def RIL_REQUEST_IMS_CALL_RESPONSE_MEDIA_CHANGE : Int := 4065
def RIL_REQUEST_SET_IMS_SMSC : Int := 4066
def RIL_REQUEST_IMS_CALL_FALL_BACK_TO_VOICE : Int := 4067
def RIL_REQUEST_SET_IMS_INITIAL_ATTACH_APN : Int := 4068
def RIL_REQUEST_QUERY_CALL_FORWARD_STATUS_URI : Int := 4069
def RIL_REQUEST_SET_CALL_FORWARD_URI : Int := 4070
def RIL_REQUEST_IMS_INITIAL_GROUP_CALL : Int := 4071
def RIL_REQUEST_IMS_ADD_TO_GROUP_CALL : Int := 4072
def RIL_REQUEST_ENABLE_IMS : Int := 4073
def RIL_REQUEST_DISABLE_IMS : Int := 4074
def RIL_REQUEST_GET_IMS_BEARER_STATE : Int := 4075
def RIL_REQUEST_SET_SOS_INITIAL_ATTACH_APN : Int := 4076
def RIL_REQUEST_IMS_HANDOVER : Int := 4077
def RIL_REQUEST_IMS_HANDOVER_STATUS_UPDATE : Int := 4078
def RIL_REQUEST_IMS_NETWORK_INFO_CHANGE : Int := 4079
def RIL_REQUEST_IMS_HANDOVER_CALL_END : Int := 4080
def RIL_REQUEST_IMS_WIFI_ENABLE : Int := 4081
def RIL_REQUEST_IMS_WIFI_CALL_STATE_CHANGE : Int := 4082
def RIL_REQUEST_IMS_UPDATE_DATA_ROUTER : Int := 4083
def RIL_REQUEST_IMS_HOLD_SINGLE_CALL : Int := 4084
def RIL_REQUEST_IMS_MUTE_SINGLE_CALL : Int := 4085
def RIL_REQUEST_IMS_SILENCE_SINGLE_CALL : Int := 4086
def RIL_REQUEST_IMS_ENABLE_LOCAL_CONFERENCE : Int := 4087
def RIL_REQUEST_IMS_NOTIFY_HANDOVER_CALL_INFO : Int := 4088
def RIL_REQUEST_GET_IMS_SRVCC_CAPBILITY : Int := 4089
def RIL_REQUEST_GET_IMS_PCSCF_ADDR : Int := 4090
def RIL_REQUEST_SET_IMS_PCSCF_ADDR : Int := 4091
def RIL_REQUEST_EXT_QUERY_FACILITY_LOCK : Int := 4092
def RIL_REQUEST_IMS_REGADDR : Int := 4093
def RIL_EXT_REQUEST_GET_PREFERRED_NETWORK_TYPE : Int := 4094
def RIL_EXT_REQUEST_RADIO_POWER_FALLBACK : Int := 4095
def RIL_EXT_REQUEST_GET_CNAP : Int := 4096
def RIL_EXT_REQUEST_SET_LOCATION_INFO : Int := 4097
def RIL_EXT_REQUEST_GET_SPECIAL_RATCAP : Int := 4098
def RIL_EXT_REQUEST_GET_VIDEO_RESOLUTION : Int := 4099
def RIL_EXT_REQUEST_GET_IMS_PANI_INFO : Int := 4100
def RIL_EXT_REQUEST_SET_EMERGENCY_ONLY : Int := 4101
def RIL_EXT_REQUEST_GET_SUBSIDYLOCK_STATUS : Int := 4102
def RIL_EXT_REQUEST_GET_ICCID : Int := 4103
def RIL_ATC_REQUEST_VSIM_SEND_CMD : Int := 6001

def RIL_REQUEST_LAST : Int := 145
def RIL_EXT_REQUEST_BASE : Int := 4000
def RIL_EXT_REQUEST_LAST : Int := 4103
def RIL_ATC_REQUEST_BASE : Int := 6000
def RIL_ATC_REQUEST_LAST : Int := 6001

/-! ## Which file has a case for which request -/

inductive File
  | Sim
  | Call
  | Network
  | Data
  | Sms
  | Misc
  | Stk
  | SS
  deriving DecidableEq

/-- The `case` labels of the switches. -/
def File.requests : File → List Int
  | .Sim =>
    [RIL_REQUEST_GET_SIM_STATUS, RIL_EXT_REQUEST_GET_SIM_STATUS, RIL_EXT_REQUEST_SIMMGR_GET_SIM_STATUS,
     RIL_REQUEST_ENTER_SIM_PIN, RIL_REQUEST_ENTER_SIM_PUK, RIL_REQUEST_ENTER_SIM_PIN2, RIL_REQUEST_ENTER_SIM_PUK2,
     RIL_REQUEST_CHANGE_SIM_PIN, RIL_REQUEST_CHANGE_SIM_PIN2, RIL_REQUEST_ENTER_NETWORK_DEPERSONALIZATION,
     RIL_REQUEST_GET_IMSI, RIL_REQUEST_SIM_IO, RIL_REQUEST_QUERY_FACILITY_LOCK, RIL_REQUEST_EXT_QUERY_FACILITY_LOCK,
     RIL_REQUEST_SET_FACILITY_LOCK, RIL_REQUEST_SIM_TRANSMIT_APDU_BASIC, RIL_REQUEST_SIM_OPEN_CHANNEL,
     RIL_REQUEST_SIM_CLOSE_CHANNEL, RIL_REQUEST_SIM_TRANSMIT_APDU_CHANNEL, RIL_REQUEST_SIM_AUTHENTICATION,
     RIL_EXT_REQUEST_GET_SIMLOCK_REMAIN_TIMES, RIL_EXT_REQUEST_SET_FACILITY_LOCK_FOR_USER,
     RIL_EXT_REQUEST_GET_SIMLOCK_STATUS, RIL_EXT_REQUEST_GET_SIMLOCK_DUMMYS, RIL_EXT_REQUEST_GET_SIMLOCK_WHITE_LIST,
     RIL_REQUEST_INIT_ISIM, RIL_REQUEST_ENABLE_IMS, RIL_REQUEST_DISABLE_IMS, RIL_EXT_REQUEST_SIMMGR_SIM_POWER,
     RIL_EXT_REQUEST_SIM_GET_ATR, RIL_EXT_REQUEST_SIM_POWER_REAL, RIL_REQUEST_SET_SIM_CARD_POWER,
     RIL_EXT_REQUEST_GET_SUBSIDYLOCK_STATUS, RIL_EXT_REQUEST_GET_ICCID]
  | .Call =>
    [RIL_REQUEST_GET_CURRENT_CALLS, RIL_REQUEST_DIAL, RIL_REQUEST_HANGUP, RIL_REQUEST_HANGUP_WAITING_OR_BACKGROUND,
     RIL_REQUEST_HANGUP_FOREGROUND_RESUME_BACKGROUND, RIL_REQUEST_SWITCH_WAITING_OR_HOLDING_AND_ACTIVE,
     RIL_REQUEST_CONFERENCE, RIL_REQUEST_UDUB, RIL_REQUEST_LAST_CALL_FAIL_CAUSE, RIL_REQUEST_DTMF,
     RIL_REQUEST_ANSWER, RIL_REQUEST_DTMF_START, RIL_REQUEST_DTMF_STOP, RIL_REQUEST_SEPARATE_CONNECTION,
     RIL_REQUEST_EXPLICIT_CALL_TRANSFER, RIL_EXT_REQUEST_EXPLICIT_CALL_TRANSFER, RIL_REQUEST_SET_TTY_MODE,
     RIL_REQUEST_QUERY_TTY_MODE, RIL_REQUEST_EXIT_EMERGENCY_CALLBACK_MODE, RIL_REQUEST_GET_IMS_CURRENT_CALLS,
     RIL_REQUEST_SET_IMS_VOICE_CALL_AVAILABILITY, RIL_REQUEST_GET_IMS_VOICE_CALL_AVAILABILITY,
     RIL_REQUEST_IMS_CALL_REQUEST_MEDIA_CHANGE, RIL_REQUEST_IMS_CALL_RESPONSE_MEDIA_CHANGE,
     RIL_REQUEST_IMS_CALL_FALL_BACK_TO_VOICE, RIL_REQUEST_IMS_INITIAL_GROUP_CALL, RIL_REQUEST_IMS_ADD_TO_GROUP_CALL,
     RIL_EXT_REQUEST_VIDEOPHONE_DIAL, RIL_EXT_REQUEST_VIDEOPHONE_CODEC, RIL_EXT_REQUEST_VIDEOPHONE_FALLBACK,
     RIL_EXT_REQUEST_VIDEOPHONE_STRING, RIL_EXT_REQUEST_VIDEOPHONE_LOCAL_MEDIA,
     RIL_EXT_REQUEST_VIDEOPHONE_CONTROL_IFRAME, RIL_EXT_REQUEST_SWITCH_MULTI_CALL,
     RIL_EXT_REQUEST_GET_HD_VOICE_STATE, RIL_EXT_REQUEST_UPDATE_ECCLIST, RIL_EXT_REQUEST_SET_VOICE_DOMAIN,
     RIL_REQUEST_IMS_HANDOVER, RIL_REQUEST_IMS_HANDOVER_STATUS_UPDATE, RIL_REQUEST_IMS_NETWORK_INFO_CHANGE,
     RIL_REQUEST_IMS_HANDOVER_CALL_END, RIL_REQUEST_IMS_UPDATE_DATA_ROUTER, RIL_REQUEST_IMS_WIFI_ENABLE,
     RIL_REQUEST_IMS_WIFI_CALL_STATE_CHANGE, RIL_EXT_REQUEST_GET_TPMR_STATE, RIL_EXT_REQUEST_SET_TPMR_STATE,
     RIL_EXT_REQUEST_SET_VIDEO_RESOLUTION, RIL_EXT_REQUEST_ENABLE_LOCAL_HOLD,
     RIL_EXT_REQUEST_ENABLE_WIFI_PARAM_REPORT, RIL_EXT_REQUEST_CALL_MEDIA_CHANGE_REQUEST_TIMEOUT,
     RIL_EXT_REQUEST_SET_DUAL_VOLTE_STATE, RIL_EXT_REQUEST_SET_LOCAL_TONE,
     RIL_REQUEST_IMS_NOTIFY_HANDOVER_CALL_INFO, RIL_REQUEST_GET_IMS_SRVCC_CAPBILITY,
     RIL_REQUEST_IMS_HOLD_SINGLE_CALL, RIL_REQUEST_IMS_MUTE_SINGLE_CALL, RIL_REQUEST_IMS_SILENCE_SINGLE_CALL,
     RIL_REQUEST_IMS_ENABLE_LOCAL_CONFERENCE, RIL_EXT_REQUEST_GET_VIDEO_RESOLUTION,
     RIL_EXT_REQUEST_GET_IMS_PANI_INFO]
  | .Network =>
    [RIL_REQUEST_SIGNAL_STRENGTH, RIL_REQUEST_VOICE_REGISTRATION_STATE, RIL_REQUEST_DATA_REGISTRATION_STATE,
     RIL_REQUEST_IMS_REGISTRATION_STATE, RIL_REQUEST_VOICE_RADIO_TECH, RIL_REQUEST_OPERATOR,
     RIL_REQUEST_RADIO_POWER, RIL_REQUEST_QUERY_NETWORK_SELECTION_MODE, RIL_REQUEST_SET_NETWORK_SELECTION_AUTOMATIC,
     RIL_REQUEST_SET_NETWORK_SELECTION_MANUAL, RIL_REQUEST_QUERY_AVAILABLE_NETWORKS, RIL_REQUEST_RESET_RADIO,
     RIL_REQUEST_SET_BAND_MODE, RIL_REQUEST_QUERY_AVAILABLE_BAND_MODE, RIL_REQUEST_SET_PREFERRED_NETWORK_TYPE,
     RIL_EXT_REQUEST_SET_PREFERRED_NETWORK_TYPE, RIL_REQUEST_GET_PREFERRED_NETWORK_TYPE,
     RIL_EXT_REQUEST_GET_PREFERRED_NETWORK_TYPE, RIL_REQUEST_GET_NEIGHBORING_CELL_IDS,
     RIL_REQUEST_SET_LOCATION_UPDATES, RIL_REQUEST_GET_CELL_INFO_LIST, RIL_REQUEST_SET_UNSOL_CELL_INFO_LIST_RATE,
     RIL_REQUEST_SHUTDOWN, RIL_EXT_REQUEST_SHUTDOWN, RIL_REQUEST_GET_RADIO_CAPABILITY,
     RIL_REQUEST_SET_RADIO_CAPABILITY, RIL_REQUEST_GET_IMS_BEARER_STATE, RIL_EXT_REQUEST_STOP_QUERY_NETWORK,
     RIL_EXT_REQUEST_UPDATE_OPERATOR_NAME, RIL_REQUEST_START_NETWORK_SCAN, RIL_REQUEST_STOP_NETWORK_SCAN,
     RIL_EXT_REQUEST_SET_EMERGENCY_ONLY]
  | .Data =>
    [RIL_REQUEST_SETUP_DATA_CALL, RIL_REQUEST_DEACTIVATE_DATA_CALL, RIL_REQUEST_LAST_DATA_CALL_FAIL_CAUSE,
     RIL_REQUEST_DATA_CALL_LIST, RIL_REQUEST_ALLOW_DATA, RIL_REQUEST_SET_INITIAL_ATTACH_APN,
     RIL_REQUEST_SET_IMS_INITIAL_ATTACH_APN, RIL_REQUEST_SET_SOS_INITIAL_ATTACH_APN, RIL_EXT_REQUEST_TRAFFIC_CLASS,
     RIL_EXT_REQUEST_ENABLE_LTE, RIL_EXT_REQUEST_ATTACH_DATA, RIL_EXT_REQUEST_FORCE_DETACH,
     RIL_EXT_REQUEST_ENABLE_RAU_NOTIFY, RIL_EXT_REQUEST_SET_SINGLE_PDN, RIL_EXT_REQUEST_SET_XCAP_IP_ADDR,
     RIL_REQUEST_GET_IMS_PCSCF_ADDR, RIL_REQUEST_SET_IMS_PCSCF_ADDR, RIL_EXT_REQUEST_REATTACH,
     RIL_REQUEST_IMS_REGADDR, RIL_EXT_REQUEST_UPDATE_PLMN, RIL_EXT_REQUEST_QUERY_PLMN]
  | .Sms =>
    [RIL_REQUEST_SEND_SMS, RIL_REQUEST_SEND_SMS_EXPECT_MORE, RIL_REQUEST_IMS_SEND_SMS, RIL_REQUEST_SMS_ACKNOWLEDGE,
     RIL_REQUEST_WRITE_SMS_TO_SIM, RIL_REQUEST_DELETE_SMS_ON_SIM, RIL_REQUEST_GSM_SMS_BROADCAST_ACTIVATION,
     RIL_REQUEST_GSM_SET_BROADCAST_SMS_CONFIG, RIL_REQUEST_GSM_GET_BROADCAST_SMS_CONFIG,
     RIL_REQUEST_GET_SMSC_ADDRESS, RIL_REQUEST_SET_SMSC_ADDRESS, RIL_REQUEST_REPORT_SMS_MEMORY_STATUS,
     RIL_REQUEST_SET_IMS_SMSC, RIL_EXT_REQUEST_GET_SIM_CAPACITY, RIL_EXT_REQUEST_STORE_SMS_TO_SIM,
     RIL_EXT_REQUEST_QUERY_SMS_STORAGE_MODE, RIL_EXT_REQUEST_SET_SMS_BEARER]
  | .Misc =>
    [RIL_REQUEST_BASEBAND_VERSION, RIL_REQUEST_GET_IMEI, RIL_REQUEST_GET_IMEISV, RIL_REQUEST_DEVICE_IDENTITY,
     RIL_REQUEST_SET_MUTE, RIL_REQUEST_GET_MUTE, RIL_REQUEST_SCREEN_STATE, RIL_REQUEST_GET_HARDWARE_CONFIG,
     RIL_REQUEST_OEM_HOOK_STRINGS, RIL_REQUEST_NV_RESET_CONFIG, RIL_EXT_REQUEST_GET_BAND_INFO,
     RIL_EXT_REQUEST_SET_BAND_INFO_MODE, RIL_EXT_REQUEST_SET_SPECIAL_RATCAP, RIL_EXT_REQUEST_SEND_CMD,
     RIL_ATC_REQUEST_VSIM_SEND_CMD, RIL_EXT_REQUEST_RADIO_POWER_FALLBACK, RIL_EXT_REQUEST_SET_LOCATION_INFO,
     RIL_EXT_REQUEST_GET_SPECIAL_RATCAP]
  | .Stk =>
    [RIL_REQUEST_STK_GET_PROFILE, RIL_REQUEST_STK_SEND_ENVELOPE_COMMAND, RIL_REQUEST_STK_SEND_TERMINAL_RESPONSE,
     RIL_REQUEST_STK_HANDLE_CALL_SETUP_REQUESTED_FROM_SIM, RIL_REQUEST_REPORT_STK_SERVICE_IS_RUNNING,
     RIL_EXT_REQUEST_GET_DEFAULT_NAN]
  | .SS =>
    [RIL_REQUEST_SEND_USSD, RIL_REQUEST_CANCEL_USSD, RIL_REQUEST_GET_CLIR, RIL_REQUEST_SET_CLIR,
     RIL_REQUEST_QUERY_CALL_FORWARD_STATUS, RIL_REQUEST_SET_CALL_FORWARD, RIL_REQUEST_QUERY_CALL_WAITING,
     RIL_REQUEST_SET_CALL_WAITING, RIL_REQUEST_CHANGE_BARRING_PASSWORD, RIL_REQUEST_QUERY_CLIP,
     RIL_REQUEST_SET_SUPP_SVC_NOTIFICATION, RIL_REQUEST_QUERY_CALL_FORWARD_STATUS_URI,
     RIL_REQUEST_SET_CALL_FORWARD_URI, RIL_EXT_REQUEST_SET_COLP, RIL_EXT_REQUEST_QUERY_COLP,
     RIL_EXT_REQUEST_QUERY_COLR, RIL_EXT_REQUEST_MMI_ENTER_SIM, RIL_EXT_REQUEST_UPDATE_CLIP,
     RIL_EXT_REQUEST_GET_CNAP]

/-- The operands of the `||`. -/
def files : List File := [.Sim, .Call, .Network, .Data, .Sms, .Misc, .Stk, .SS]

/-- The first of the functions that does not return 0. -/
def servedBy (files : List File) (request : Int) : Option File := files.find? fun f => request ∈ f.requests

/-! ## What is refused -/

def unsupported : List Int :=
  [RIL_REQUEST_CDMA_QUERY_PREFERRED_VOICE_PRIVACY_MODE, RIL_REQUEST_CDMA_SET_ROAMING_PREFERENCE,
   RIL_REQUEST_CDMA_SET_PREFERRED_VOICE_PRIVACY_MODE, RIL_REQUEST_GET_ACTIVITY_INFO,
   RIL_REQUEST_SET_CARRIER_RESTRICTIONS, RIL_REQUEST_GET_CARRIER_RESTRICTIONS, RIL_REQUEST_START_KEEPALIVE,
   RIL_REQUEST_STOP_KEEPALIVE, RIL_REQUEST_STOP_LCE]

/-- What is served while the radio state is not known. -/
def whileUnavailable : List Int :=
  [RIL_REQUEST_GET_SIM_STATUS, RIL_REQUEST_GET_IMEI, RIL_REQUEST_GET_IMEISV, RIL_REQUEST_DEVICE_IDENTITY,
   RIL_REQUEST_OEM_HOOK_STRINGS, RIL_REQUEST_GET_RADIO_CAPABILITY, RIL_REQUEST_SET_RADIO_CAPABILITY,
   RIL_REQUEST_SIM_AUTHENTICATION, RIL_REQUEST_SIM_CLOSE_CHANNEL, RIL_REQUEST_SIM_OPEN_CHANNEL,
   RIL_REQUEST_SIM_TRANSMIT_APDU_CHANNEL, RIL_REQUEST_SIM_TRANSMIT_APDU_BASIC, RIL_REQUEST_SHUTDOWN,
   RIL_REQUEST_GET_IMS_BEARER_STATE, RIL_REQUEST_GET_IMS_SRVCC_CAPBILITY, RIL_REQUEST_SET_BAND_MODE,
   RIL_REQUEST_QUERY_AVAILABLE_BAND_MODE, RIL_EXT_REQUEST_GET_HD_VOICE_STATE, RIL_EXT_REQUEST_GET_SIMLOCK_STATUS,
   RIL_EXT_REQUEST_GET_SIMLOCK_DUMMYS, RIL_EXT_REQUEST_GET_SIMLOCK_WHITE_LIST, RIL_EXT_REQUEST_SIMMGR_SIM_POWER,
   RIL_EXT_REQUEST_SIMMGR_GET_SIM_STATUS, RIL_EXT_REQUEST_SEND_CMD, RIL_EXT_REQUEST_GET_SIM_STATUS,
   RIL_EXT_REQUEST_SHUTDOWN, RIL_EXT_REQUEST_SIM_POWER_REAL, RIL_ATC_REQUEST_VSIM_SEND_CMD,
   RIL_EXT_REQUEST_GET_RADIO_PREFERENCE, RIL_EXT_REQUEST_SET_RADIO_PREFERENCE, RIL_EXT_REQUEST_SET_EMERGENCY_ONLY,
   RIL_EXT_REQUEST_GET_SUBSIDYLOCK_STATUS]

/-- What is served while the radio is off. -/
def whileOff : List Int :=
  [RIL_REQUEST_RADIO_POWER, RIL_REQUEST_GET_SIM_STATUS, RIL_REQUEST_ENTER_SIM_PIN, RIL_REQUEST_ENTER_SIM_PIN2,
   RIL_REQUEST_ENTER_SIM_PUK, RIL_REQUEST_ENTER_SIM_PUK2, RIL_REQUEST_CHANGE_SIM_PIN, RIL_REQUEST_CHANGE_SIM_PIN2,
   RIL_REQUEST_REPORT_STK_SERVICE_IS_RUNNING, RIL_REQUEST_STK_SEND_TERMINAL_RESPONSE,
   RIL_REQUEST_STK_SEND_ENVELOPE_COMMAND, RIL_REQUEST_SIM_IO, RIL_REQUEST_SET_SMSC_ADDRESS,
   RIL_REQUEST_GET_SMSC_ADDRESS, RIL_REQUEST_BASEBAND_VERSION, RIL_REQUEST_GET_IMEI, RIL_REQUEST_GET_IMEISV,
   RIL_REQUEST_DEVICE_IDENTITY, RIL_REQUEST_SCREEN_STATE, RIL_REQUEST_DELETE_SMS_ON_SIM, RIL_REQUEST_GET_IMSI,
   RIL_REQUEST_QUERY_FACILITY_LOCK, RIL_REQUEST_SET_FACILITY_LOCK, RIL_REQUEST_OEM_HOOK_STRINGS,
   RIL_REQUEST_SET_INITIAL_ATTACH_APN, RIL_REQUEST_ALLOW_DATA, RIL_REQUEST_GET_RADIO_CAPABILITY,
   RIL_REQUEST_SET_RADIO_CAPABILITY, RIL_REQUEST_GET_PREFERRED_NETWORK_TYPE, RIL_REQUEST_SHUTDOWN,
   RIL_REQUEST_SIM_AUTHENTICATION, RIL_REQUEST_SIM_CLOSE_CHANNEL, RIL_REQUEST_SIM_OPEN_CHANNEL,
   RIL_REQUEST_SIM_TRANSMIT_APDU_CHANNEL, RIL_REQUEST_SIM_TRANSMIT_APDU_BASIC,
   RIL_REQUEST_SET_PREFERRED_NETWORK_TYPE, RIL_REQUEST_NV_RESET_CONFIG, RIL_REQUEST_SET_UNSOL_CELL_INFO_LIST_RATE,
   RIL_REQUEST_SET_BAND_MODE, RIL_REQUEST_QUERY_AVAILABLE_BAND_MODE, RIL_REQUEST_SET_LOCATION_UPDATES,
   RIL_REQUEST_SET_SUPP_SVC_NOTIFICATION, RIL_REQUEST_SET_TTY_MODE, RIL_REQUEST_QUERY_TTY_MODE,
   RIL_REQUEST_EXIT_EMERGENCY_CALLBACK_MODE, RIL_REQUEST_GSM_GET_BROADCAST_SMS_CONFIG,
   RIL_REQUEST_GSM_SET_BROADCAST_SMS_CONFIG, RIL_REQUEST_GSM_SMS_BROADCAST_ACTIVATION,
   RIL_REQUEST_QUERY_NETWORK_SELECTION_MODE, RIL_REQUEST_VOICE_RADIO_TECH, RIL_REQUEST_GET_NEIGHBORING_CELL_IDS,
   RIL_REQUEST_GET_MUTE, RIL_REQUEST_GET_CURRENT_CALLS, RIL_REQUEST_LAST_CALL_FAIL_CAUSE,
   RIL_EXT_REQUEST_GET_RADIO_PREFERENCE, RIL_EXT_REQUEST_SET_RADIO_PREFERENCE,
   RIL_EXT_REQUEST_GET_PREFERRED_NETWORK_TYPE, RIL_EXT_REQUEST_GET_SPECIAL_RATCAP,
   RIL_EXT_REQUEST_GET_VIDEO_RESOLUTION, RIL_EXT_REQUEST_SET_EMERGENCY_ONLY, RIL_EXT_REQUEST_GET_SUBSIDYLOCK_STATUS,
   RIL_REQUEST_GET_IMS_CURRENT_CALLS, RIL_REQUEST_SET_IMS_VOICE_CALL_AVAILABILITY,
   RIL_REQUEST_GET_IMS_VOICE_CALL_AVAILABILITY, RIL_REQUEST_INIT_ISIM, RIL_REQUEST_SET_IMS_SMSC,
   RIL_REQUEST_SET_IMS_INITIAL_ATTACH_APN, RIL_REQUEST_GET_IMS_BEARER_STATE, RIL_REQUEST_SET_SOS_INITIAL_ATTACH_APN,
   RIL_REQUEST_GET_IMS_SRVCC_CAPBILITY, RIL_EXT_REQUEST_GET_TPMR_STATE, RIL_EXT_REQUEST_SET_TPMR_STATE,
   RIL_EXT_REQUEST_SET_VIDEO_RESOLUTION, RIL_EXT_REQUEST_ENABLE_WIFI_PARAM_REPORT,
   RIL_EXT_REQUEST_CALL_MEDIA_CHANGE_REQUEST_TIMEOUT, RIL_EXT_REQUEST_SET_DUAL_VOLTE_STATE,
   RIL_REQUEST_IMS_HANDOVER, RIL_REQUEST_IMS_HANDOVER_STATUS_UPDATE, RIL_REQUEST_IMS_NETWORK_INFO_CHANGE,
   RIL_REQUEST_IMS_HANDOVER_CALL_END, RIL_REQUEST_IMS_WIFI_ENABLE, RIL_REQUEST_IMS_WIFI_CALL_STATE_CHANGE,
   RIL_REQUEST_IMS_UPDATE_DATA_ROUTER, RIL_REQUEST_IMS_NOTIFY_HANDOVER_CALL_INFO, RIL_REQUEST_GET_IMS_PCSCF_ADDR,
   RIL_REQUEST_SET_IMS_PCSCF_ADDR, RIL_REQUEST_EXT_QUERY_FACILITY_LOCK, RIL_EXT_REQUEST_GET_HD_VOICE_STATE,
   RIL_EXT_REQUEST_SIMMGR_SIM_POWER, RIL_EXT_REQUEST_ENABLE_RAU_NOTIFY, RIL_EXT_REQUEST_GET_SIMLOCK_REMAIN_TIMES,
   RIL_EXT_REQUEST_SET_FACILITY_LOCK_FOR_USER, RIL_EXT_REQUEST_GET_SIMLOCK_STATUS,
   RIL_EXT_REQUEST_GET_SIMLOCK_DUMMYS, RIL_EXT_REQUEST_GET_SIMLOCK_WHITE_LIST, RIL_EXT_REQUEST_SET_COLP,
   RIL_EXT_REQUEST_SIM_GET_ATR, RIL_EXT_REQUEST_STORE_SMS_TO_SIM, RIL_EXT_REQUEST_QUERY_SMS_STORAGE_MODE,
   RIL_EXT_REQUEST_UPDATE_ECCLIST, RIL_EXT_REQUEST_GET_BAND_INFO, RIL_EXT_REQUEST_SET_BAND_INFO_MODE,
   RIL_EXT_REQUEST_RADIO_POWER_FALLBACK, RIL_EXT_REQUEST_SET_SPECIAL_RATCAP, RIL_EXT_REQUEST_SIMMGR_GET_SIM_STATUS,
   RIL_EXT_REQUEST_SEND_CMD, RIL_EXT_REQUEST_GET_SIM_STATUS, RIL_EXT_REQUEST_SHUTDOWN,
   RIL_EXT_REQUEST_SET_VOICE_DOMAIN, RIL_EXT_REQUEST_SIM_POWER_REAL, RIL_EXT_REQUEST_GET_ICCID,
   RIL_ATC_REQUEST_VSIM_SEND_CMD]

/-! ## The memory of a request (ril_mmgr.c) -/

/-- The values of `freeFunction`. -/
inductive Free
  | freeVoid
  | freeInts
  | freeString
  | freeStrings
  | freeRaw
  | freeDial
  | freeSIM_IO
  | freeCallForwardStatus
  | freeWriteSmsToSim
  | freeSendCdmaSms
  | freeAcknowledgeLastIncomingCdmaSms
  | freeSetGsmBroadcastConfig
  | freeSetCdmaBroadcastConfig
  | freeWriteSmsToRuim
  | freeSetInitialAttachApn
  | freeSendImsSms
  | freeIccApdu
  | freeIccOpenLogicalChannel
  | freeNvReadItem
  | freeNvWriteItem
  | freeSetUiccSubscription
  | freeIccSimAuthentication
  | freeSetDataProfileData
  | freeSetRadioCapability
  | freeSetAllowedCarriers
  | freeVideoPhoneDial
  | freeVideoPhoneCodec
  | freeCallForwardUri
  | freeNotifyIMSNetworkInfoChanged
  | freeSetCarrierImsiEncryption
  | freeStartNetworkScan
  | freeStartKeepAlive
  deriving DecidableEq

/-- ril_aosp_mmgr.h -/
def s_memoryManager : List (Option Free) :=
  [none, some .freeVoid, some .freeStrings, some .freeStrings, some .freeStrings, some .freeStrings,
   some .freeStrings, some .freeStrings, some .freeStrings, some .freeVoid, some .freeDial, some .freeStrings,
   some .freeInts, some .freeVoid, some .freeVoid, some .freeVoid, some .freeVoid, some .freeVoid, some .freeVoid,
   some .freeVoid, some .freeVoid, some .freeVoid, some .freeVoid, some .freeInts, some .freeString, some .freeStrings,
   some .freeStrings, some .freeStrings, some Free.freeSIM_IO, some .freeString, some .freeVoid, some .freeVoid,
   some .freeInts, some .freeCallForwardStatus, some .freeCallForwardStatus, some .freeInts, some .freeInts,
   some .freeInts, none, none, some .freeVoid, some .freeStrings, some .freeStrings, some .freeStrings,
   some .freeStrings, some .freeVoid, some .freeVoid, some .freeString, some .freeVoid, some .freeString,
   some .freeVoid, some .freeVoid, some .freeInts, some .freeInts, some .freeVoid, some .freeVoid, none,
   some .freeVoid, none, some .freeRaw, some .freeStrings, some .freeInts, some .freeInts, some .freeWriteSmsToSim,
   some .freeInts, some .freeInts, some .freeVoid, none, none, some .freeString, some .freeString, some .freeInts,
   some .freeVoid, some .freeInts, some .freeVoid, some .freeVoid, some .freeInts, some .freeInts, some .freeInts,
   some .freeVoid, some .freeInts, some .freeVoid, some .freeInts, some .freeVoid, some .freeString, some .freeStrings,
   none, some .freeSendCdmaSms, some .freeAcknowledgeLastIncomingCdmaSms, some .freeVoid,
   some .freeSetGsmBroadcastConfig, some .freeInts, some .freeVoid, some .freeSetCdmaBroadcastConfig, some .freeInts,
   some .freeVoid, some .freeWriteSmsToRuim, some .freeInts, some .freeVoid, some .freeVoid, some .freeVoid,
   some .freeString, some .freeInts, some .freeVoid, some .freeVoid, some .freeString, some .freeStrings,
   some .freeString, some .freeVoid, some .freeVoid, some .freeInts, some .freeSetInitialAttachApn, some .freeVoid,
   some .freeSendImsSms, some .freeIccApdu, some .freeIccOpenLogicalChannel, some .freeInts, some .freeIccApdu,
   some .freeNvReadItem, some .freeNvWriteItem, some .freeRaw, some .freeInts, some .freeSetUiccSubscription,
   some .freeInts, some .freeVoid, some .freeIccSimAuthentication, none, none, some .freeSetDataProfileData,
   some .freeVoid, some .freeVoid, some .freeSetRadioCapability, some .freeInts, some .freeVoid, some .freeVoid,
   some .freeVoid, some .freeSetAllowedCarriers, some .freeVoid, some .freeInts, some .freeInts, some .freeInts,
   some .freeSetCarrierImsiEncryption, some .freeStartNetworkScan, some .freeVoid, some .freeStartKeepAlive,
   some .freeInts]

/-- ril_oem_mmgr.h -/
def s_oemMemoryManager : List (Option Free) :=
  [none, some .freeVideoPhoneDial, some .freeVideoPhoneCodec, some .freeVoid, some .freeString, some .freeInts,
   some .freeInts, some .freeInts, some .freeInts, some .freeInts, some .freeInts, some .freeVoid, some .freeVoid,
   some .freeVoid, some .freeInts, some .freeVoid, some .freeInts, some .freeVoid, some .freeVoid, some .freeVoid,
   some .freeVoid, some .freeInts, some .freeVoid, some .freeVoid, some .freeStrings, some .freeInts, some .freeVoid,
   some .freeInts, some .freeString, some .freeVoid, some .freeInts, some .freeInts, some .freeInts, some .freeVoid,
   some .freeVoid, some .freeString, some .freeString, some .freeVoid, some .freeStrings, some .freeString,
   some .freeVoid, some .freeVoid, some .freeInts, some .freeVoid, some .freeInts, some .freeInts, some .freeInts,
   some .freeInts, some .freeVoid, some .freeInts, some .freeInts, some .freeInts, some .freeInts, some .freeInts,
   some .freeInts, some .freeInts, some .freeInts, some .freeInts, some .freeString, some .freeStrings, some .freeVoid,
   some .freeInts, some .freeVoid, some .freeStrings, some .freeInts, some .freeInts, some .freeString, some .freeInts,
   some .freeSetInitialAttachApn, some .freeCallForwardUri, some .freeCallForwardUri, some .freeString,
   some .freeString, some .freeVoid, some .freeVoid, some .freeVoid, some .freeSetInitialAttachApn, some .freeInts,
   some .freeInts, some .freeNotifyIMSNetworkInfoChanged, some .freeInts, some .freeInts, some .freeInts,
   some .freeVoid, some .freeInts, some .freeInts, some .freeInts, some .freeInts, some .freeString, some .freeVoid,
   some .freeVoid, some .freeString, some .freeStrings, some .freeVoid, some .freeVoid, some .freeInts, some .freeVoid,
   some .freeStrings, some .freeVoid, some .freeVoid, some .freeVoid, some .freeInts, some .freeVoid, some .freeVoid]

/-- ril_atc_mmgr.h -/
def s_atcMemoryManager : List (Option Free) :=
  [none, some .freeString]

/-- `pMC` is NULL for a code of no table, and its `freeFunction` may be NULL. -/
def memoryManager (request : Int) : Option (Option Free) :=
  if 0 < request ∧ request ≤ RIL_REQUEST_LAST then s_memoryManager[request.toNat]?
  else if RIL_EXT_REQUEST_BASE < request ∧ request ≤ RIL_EXT_REQUEST_LAST then
    s_oemMemoryManager[(request - RIL_EXT_REQUEST_BASE).toNat]?
  else if RIL_ATC_REQUEST_BASE < request ∧ request ≤ RIL_ATC_REQUEST_LAST then
    s_atcMemoryManager[(request - RIL_ATC_REQUEST_BASE).toNat]?
  else none

/-! ## processRequest -/

inductive RIL_Errno
  | RADIO_NOT_AVAILABLE
  | GENERIC_FAILURE
  | REQUEST_NOT_SUPPORTED
  | LCE_NOT_SUPPORTED
  deriving DecidableEq

/-- What processRequest finds. -/
structure Ril where
  SIM_COUNT : Int
  MAX_AT_CHANNELS : Int
  /-- `s_radioState[socket_id]` -/
  radioState : RIL_RadioState
  /-- `s_modemState == MODEM_ALIVE` -/
  modemAlive : Bool
  /-- What getChannel returns. -/
  channelID : Int

inductive Act
  | RIL_onRequestComplete (e : RIL_Errno)
  | processPropRequests
  /-- The function of the file runs the case of the request. -/
  | serves (f : File) (channelID : Int)
  | putChannel (channelID : Int)
  /-- A call through NULL is `none`. -/
  | freeFunction (free : Option Free)
  deriving DecidableEq

/-- What is answered before a channel is taken. -/
def refusal (r : Ril) (request : Int) : Option RIL_Errno :=
  if request ∈ unsupported then some .REQUEST_NOT_SUPPORTED
  else if request = RIL_REQUEST_PULL_LCEDATA then some .RADIO_NOT_AVAILABLE
  else if request = RIL_REQUEST_START_LCE then some .LCE_NOT_SUPPORTED
  else if r.modemAlive = false then some .RADIO_NOT_AVAILABLE
  else if r.radioState = .RADIO_STATE_UNAVAILABLE ∧ request ∉ whileUnavailable then some .RADIO_NOT_AVAILABLE
  else if r.radioState = .RADIO_STATE_OFF ∧ request ∉ whileOff then some .RADIO_NOT_AVAILABLE
  else none

/-- From getChannel to putChannel. -/
def onChannel (order : List File) (r : Ril) (request : Int) : List Act :=
  if r.channelID < 0 ∨ r.MAX_AT_CHANNELS ≤ r.channelID then [.RIL_onRequestComplete .GENERIC_FAILURE]
  else
    [match servedBy order request with
      | some f => .serves f r.channelID
      | none => .RIL_onRequestComplete .REQUEST_NOT_SUPPORTED,
     .putChannel r.channelID]

/-- Up to the label `done`. -/
def answering (order : List File) (r : Ril) (request socket_id : Int) : List Act :=
  if socket_id < 0 ∨ r.SIM_COUNT ≤ socket_id then []
  else
    match refusal r request with
    | some e => [.RIL_onRequestComplete e]
    | none =>
      if request = RIL_EXT_REQUEST_GET_RADIO_PREFERENCE ∨ request = RIL_EXT_REQUEST_SET_RADIO_PREFERENCE then
        [.processPropRequests]
      else onChannel order r request

/-- From the label `done` on. -/
def done (request : Int) : List Act := (memoryManager request).toList.map .freeFunction

def processRequestIn (order : List File) (r : Ril) (request socket_id : Int) : List Act :=
  answering order r request socket_id ++ done request

def processRequest : Ril → Int → Int → List Act := processRequestIn files

/-! ## The order of the files -/

/-- What at most one member of a list has is found in any order of it. -/
theorem find?_perm {α : Type} {p : α → Bool} {l l' : List α} (hperm : l.Perm l')
    (hone : ∀ a ∈ l, ∀ b ∈ l, p a = true → p b = true → a = b) : l.find? p = l'.find? p := by
  cases h' : l'.find? p with
  | none =>
    rw [List.find?_eq_none] at h' ⊢
    exact fun a ha => h' a (hperm.mem_iff.mp ha)
  | some b =>
    have hb : b ∈ l := hperm.mem_iff.mpr (List.mem_of_find?_eq_some h')
    have hpb : p b = true := List.find?_some h'
    cases h : l.find? p with
    | none => exact absurd hpb (List.find?_eq_none.mp h b hb)
    | some a => rw [hone a (List.mem_of_find?_eq_some h) b hb (List.find?_some h) hpb]

theorem requests_disjoint : files.Pairwise fun f g => ∀ request ∈ f.requests, request ∉ g.requests := by
  decide +kernel

theorem servedBy_perm {order : List File} (h : order.Perm files) (request : Int) :
    servedBy order request = servedBy files request := by
  refine find?_perm h fun f hf g hg hfserves hgserves => ?_
  by_contra hne
  have hdisjoint := (@List.Pairwise.forall _ _ _ ⟨fun _ _ h request hf hg => h request hg hf⟩ requests_disjoint)
    (h.mem_iff.mp hf) (h.mem_iff.mp hg) hne
  exact hdisjoint request (of_decide_eq_true hfserves) (of_decide_eq_true hgserves)

/-- **No order of the files changes what becomes of a request.** -/
theorem processRequestIn_perm {order : List File} (h : order.Perm files) (r : Ril) (request socket_id : Int) :
    processRequestIn order r request socket_id = processRequest r request socket_id := by
  simp only [processRequest, processRequestIn, answering, onChannel, servedBy_perm h]

/-- The Call file is asked first, and the file of the SIM last. -/
theorem processRequestIn_rotated :
    [.Call, .Network, .Data, .Sms, .Misc, .Stk, .SS, .Sim].Perm files ∧
      processRequestIn [.Call, .Network, .Data, .Sms, .Misc, .Stk, .SS, .Sim] ⟨2, 4, .RADIO_STATE_ON, true, 1⟩
        RIL_REQUEST_DIAL 0 = processRequest ⟨2, 4, .RADIO_STATE_ON, true, 1⟩ RIL_REQUEST_DIAL 0 :=
  ⟨by decide, processRequestIn_perm (by decide) _ _ _⟩

/-! ## What processRequest does with every request -/

/-- The act answers the request, or leaves it to a function that does. -/
def Act.answers : Act → Bool
  | .RIL_onRequestComplete _ => true
  | .processPropRequests => true
  | .serves _ _ => true
  | .putChannel _ => false
  | .freeFunction _ => false

def Act.freed : Act → Option (Option Free)
  | .freeFunction free => some free
  | _ => none

/-- Up to the label `done` the request is answered, and a channel is given back. -/
theorem answering_eq (order : List File) {r : Ril} {socket_id : Int}
    (hvalid : ¬ (socket_id < 0 ∨ r.SIM_COUNT ≤ socket_id)) (request : Int) :
    ∃ a : Act, a.answers = true ∧ a.freed = none ∧
      (answering order r request socket_id = [a] ∨
        answering order r request socket_id = [a, .putChannel r.channelID]) := by
  unfold answering
  rw [if_neg hvalid]
  cases refusal r request with
  | some e => exact ⟨.RIL_onRequestComplete e, rfl, rfl, .inl rfl⟩
  | none =>
    dsimp only
    split
    · exact ⟨.processPropRequests, rfl, rfl, .inl rfl⟩
    · unfold onChannel
      split
      · exact ⟨_, rfl, rfl, .inl rfl⟩
      · cases servedBy order request with
        | some f => exact ⟨.serves f r.channelID, rfl, rfl, .inr rfl⟩
        | none => exact ⟨_, rfl, rfl, .inr rfl⟩

end UniRil.Dispatch
