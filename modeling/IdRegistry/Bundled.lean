import IdRegistry.Output.Lookup
import IdRegistry.ReadRegistry

namespace IdRegistry.Bundled

def document : String :=
  r#"<?xml version="1.0" encoding="UTF-8"?>
<protoIdRegistry>
    <constant name="__module__" value="futu.common.constant"/>
    <constant name="InitConnect" value="1001"/>
    <constant name="GetGlobalState" value="1002"/>
    <constant name="Notify" value="1003"/>
    <constant name="KeepAlive" value="1004"/>
    <constant name="GetUserInfo" value="1005"/>
    <constant name="Verification" value="1006"/>
    <constant name="GetDelayStatistics" value="1007"/>
    <constant name="TestCmd" value="1008"/>
    <constant name="InitQuantMode" value="1009"/>
    <constant name="Trd_GetAccList" value="2001"/>
    <constant name="Trd_UnlockTrade" value="2005"/>
    <constant name="Trd_SubAccPush" value="2008"/>
    <constant name="Trd_GetFunds" value="2101"/>
    <constant name="Trd_GetPositionList" value="2102"/>
    <constant name="Trd_GetMaxTrdQtys" value="2111"/>
    <constant name="Trd_GetOrderList" value="2201"/>
    <constant name="Trd_PlaceOrder" value="2202"/>
    <constant name="Trd_ModifyOrder" value="2205"/>
    <constant name="Trd_UpdateOrder" value="2208"/>
    <constant name="Trd_GetOrderFillList" value="2211"/>
    <constant name="Trd_UpdateOrderFill" value="2218"/>
    <constant name="Trd_GetHistoryOrderList" value="2221"/>
    <constant name="Trd_GetHistoryOrderFillList" value="2222"/>
    <constant name="Trd_GetMarginRatio" value="2223"/>
    <constant name="Trd_GetOrderFee" value="2225"/>
    <constant name="Trd_FlowSummary" value="2226"/>
    <constant name="Qot_Sub" value="3001"/>
    <constant name="Qot_RegQotPush" value="3002"/>
    <constant name="Qot_GetSubInfo" value="3003"/>
    <constant name="Qot_GetBasicQot" value="3004"/>
    <constant name="Qot_UpdateBasicQot" value="3005"/>
    <constant name="Qot_GetKL" value="3006"/>
    <constant name="Qot_UpdateKL" value="3007"/>
    <constant name="Qot_GetRT" value="3008"/>
    <constant name="Qot_UpdateRT" value="3009"/>
    <constant name="Qot_GetTicker" value="3010"/>
    <constant name="Qot_UpdateTicker" value="3011"/>
    <constant name="Qot_GetOrderBook" value="3012"/>
    <constant name="Qot_UpdateOrderBook" value="3013"/>
    <constant name="Qot_GetBroker" value="3014"/>
    <constant name="Qot_UpdateBroker" value="3015"/>
    <constant name="Qot_UpdatePriceReminder" value="3019"/>
    <constant name="Qot_RequestHistoryKL" value="3103"/>
    <constant name="Qot_RequestHistoryKLQuota" value="3104"/>
    <constant name="Qot_RequestRehab" value="3105"/>
    <constant name="Qot_GetSuspend" value="3201"/>
    <constant name="Qot_GetStaticInfo" value="3202"/>
    <constant name="Qot_GetSecuritySnapshot" value="3203"/>
    <constant name="Qot_GetPlateSet" value="3204"/>
    <constant name="Qot_GetPlateSecurity" value="3205"/>
    <constant name="Qot_GetReference" value="3206"/>
    <constant name="Qot_GetOwnerPlate" value="3207"/>
    <constant name="Qot_GetHoldingChangeList" value="3208"/>
    <constant name="Qot_GetOptionChain" value="3209"/>
    <constant name="Qot_GetWarrant" value="3210"/>
    <constant name="Qot_GetCapitalFlow" value="3211"/>
    <constant name="Qot_GetCapitalDistribution" value="3212"/>
    <constant name="Qot_GetUserSecurity" value="3213"/>
    <constant name="Qot_ModifyUserSecurity" value="3214"/>
    <constant name="Qot_StockFilter" value="3215"/>
    <constant name="Qot_GetCodeChange" value="3216"/>
    <constant name="Qot_GetIpoList" value="3217"/>
    <constant name="Qot_GetFutureInfo" value="3218"/>
    <constant name="Qot_RequestTradeDate" value="3219"/>
    <constant name="Qot_SetPriceReminder" value="3220"/>
    <constant name="Qot_GetPriceReminder" value="3221"/>
    <constant name="Qot_GetUserSecurityGroup" value="3222"/>
    <constant name="Qot_GetMarketState" value="3223"/>
    <constant name="Qot_GetOptionExpirationDate" value="3224"/>
    <list name="All_PushId">
        <item value="1003"/>
        <item value="1004"/>
        <item value="2208"/>
        <item value="2218"/>
        <item value="3015"/>
        <item value="3013"/>
        <item value="3007"/>
        <item value="3009"/>
        <item value="3005"/>
        <item value="3011"/>
        <item value="3019"/>
    </list>
    <helper name="is_proto_id_push"/>
</protoIdRegistry>
"#

def registry : Reported Registry :=
  readRegistry document.toUTF8.toList

def tables : Except Failure RustTables :=
  match registry.result with
  | .ok registry => (RustTables.ofRegistry registry).result
  | .error failure => .error failure

end IdRegistry.Bundled
