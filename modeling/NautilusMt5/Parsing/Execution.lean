import NautilusMt5.Lib.Py
import Mathlib.Data.List.Sort

/-!
# The MT5 order vocabulary (`parsing/execution.py`)

The constants of MT5 requests, the maps between them and the enums of Nautilus, and `validateOrderPreVenue`, which
refuses what the maps do not cover.

`orderSide_of_map` and `orderType_of_map` say that the two report maps invert `mapOrderTypeAndAction`,
`timeInForce_of_filling` what the filling type keeps of a time in force.
-/

namespace NautilusMt5

open Py

/-! ## Enums of Nautilus -/

inductive OrderSide
  | noOrderSide
  | buy
  | sell
  deriving DecidableEq, Repr

inductive OrderType
  | market
  | limit
  | stopMarket
  | stopLimit
  | marketToLimit
  | marketIfTouched
  | limitIfTouched
  | trailingStopMarket
  | trailingStopLimit
  deriving DecidableEq, Repr

def OrderType.name : OrderType → String
  | .market => "MARKET"
  | .limit => "LIMIT"
  | .stopMarket => "STOP_MARKET"
  | .stopLimit => "STOP_LIMIT"
  | .marketToLimit => "MARKET_TO_LIMIT"
  | .marketIfTouched => "MARKET_IF_TOUCHED"
  | .limitIfTouched => "LIMIT_IF_TOUCHED"
  | .trailingStopMarket => "TRAILING_STOP_MARKET"
  | .trailingStopLimit => "TRAILING_STOP_LIMIT"

inductive TimeInForce
  | gtc
  | ioc
  | fok
  | gtd
  | day
  | atTheOpen
  | atTheClose
  deriving DecidableEq, Repr

def TimeInForce.name : TimeInForce → String
  | .gtc => "GTC"
  | .ioc => "IOC"
  | .fok => "FOK"
  | .gtd => "GTD"
  | .day => "DAY"
  | .atTheOpen => "AT_THE_OPEN"
  | .atTheClose => "AT_THE_CLOSE"

inductive OrderStatus
  | initialized
  | denied
  | emulated
  | released
  | submitted
  | accepted
  | rejected
  | canceled
  | expired
  | triggered
  | pendingUpdate
  | pendingCancel
  | partiallyFilled
  | filled
  deriving DecidableEq, Repr

/-- `order.is_open`. -/
def OrderStatus.IsOpen (status : OrderStatus) : Prop :=
  status ∈ ([.accepted, .triggered, .pendingUpdate, .pendingCancel, .partiallyFilled] : List OrderStatus)

instance : DecidablePred OrderStatus.IsOpen := fun _ => inferInstanceAs (Decidable (_ ∈ _))

/-! ## Constants of MT5 -/

def tradeActionDeal : ℤ := 1
def tradeActionPending : ℤ := 5

def tradeRetcodePlaced : ℤ := 10008
def tradeRetcodeDone : ℤ := 10009
def tradeRetcodeDonePartial : ℤ := 10010

def orderTypeBuy : ℤ := 0
def orderTypeSell : ℤ := 1
def orderTypeBuyLimit : ℤ := 2
def orderTypeSellLimit : ℤ := 3
def orderTypeBuyStop : ℤ := 4
def orderTypeSellStop : ℤ := 5
def orderTypeBuyStopLimit : ℤ := 6
def orderTypeSellStopLimit : ℤ := 7

def orderTimeGtc : ℤ := 0
def orderTimeDay : ℤ := 1
def orderTimeSpecified : ℤ := 2
def orderTimeSpecifiedDay : ℤ := 3

def orderFillingFok : ℤ := 0
def orderFillingIoc : ℤ := 1
def orderFillingReturn : ℤ := 2

/-! ## Validation -/

def supportedOrderTypes : List OrderType := [.market, .limit, .stopMarket, .stopLimit]

def supportedTimeInForce : List TimeInForce := [.gtc, .day, .fok, .ioc]

/-- `", ".join(sorted(names))`. -/
def joinSorted (names : List String) : String := ", ".intercalate (names.insertionSort (· ≤ ·))

/-- `validate_order_pre_venue`. -/
def validateOrderPreVenue (orderType : OrderType) (timeInForce : TimeInForce) : Except Error Unit :=
  if orderType ∉ supportedOrderTypes then
    .error (.valueError ("MT5 adapter does not support OrderType." ++ orderType.name ++ ". Supported types: " ++
      joinSorted (supportedOrderTypes.map OrderType.name) ++ "."))
  else if timeInForce ∉ supportedTimeInForce then
    .error (.valueError ("MT5 adapter does not support TimeInForce." ++ timeInForce.name ++ ". Supported values: " ++
      joinSorted (supportedTimeInForce.map TimeInForce.name) ++ "."))
  else .ok ()

/-- The order type and the time in force are both supported. -/
def Supported (orderType : OrderType) (timeInForce : TimeInForce) : Prop :=
  orderType ∈ supportedOrderTypes ∧ timeInForce ∈ supportedTimeInForce

instance (orderType : OrderType) (timeInForce : TimeInForce) : Decidable (Supported orderType timeInForce) :=
  inferInstanceAs (Decidable (_ ∧ _))

theorem validateOrderPreVenue_ok {orderType : OrderType} {timeInForce : TimeInForce}
    (h : Supported orderType timeInForce) : validateOrderPreVenue orderType timeInForce = .ok () := by
  rw [validateOrderPreVenue, if_neg (not_not_intro h.1), if_neg (not_not_intro h.2)]

/-- What is not supported raises a `ValueError`, whose text names the value that is refused. -/
theorem validateOrderPreVenue_error {orderType : OrderType} {timeInForce : TimeInForce}
    (h : ¬ Supported orderType timeInForce) : ∃ value rest,
      (value = "OrderType." ++ orderType.name ∨ value = "TimeInForce." ++ timeInForce.name) ∧
      validateOrderPreVenue orderType timeInForce =
        .error (.valueError ("MT5 adapter does not support " ++ (value ++ rest))) := by
  by_cases ht : orderType ∈ supportedOrderTypes
  · have hf : timeInForce ∉ supportedTimeInForce := fun hf => h ⟨ht, hf⟩
    refine ⟨_, ". Supported values: " ++ joinSorted (supportedTimeInForce.map TimeInForce.name) ++ ".",
      .inr rfl, ?_⟩
    rw [validateOrderPreVenue, if_neg (not_not_intro ht), if_pos hf]
    simp [String.ext_iff]
  · refine ⟨_, ". Supported types: " ++ joinSorted (supportedOrderTypes.map OrderType.name) ++ ".",
      .inl rfl, ?_⟩
    rw [validateOrderPreVenue, if_pos ht]
    simp [String.ext_iff]

theorem supported_of_validate {orderType : OrderType} {timeInForce : TimeInForce} {u : Unit}
    (h : validateOrderPreVenue orderType timeInForce = .ok u) : Supported orderType timeInForce := by
  by_contra hn
  obtain ⟨value, rest, -, he⟩ := validateOrderPreVenue_error hn
  rw [h] at he
  cases he

/-! ## From Nautilus to MT5 -/

/-- `map_order_type_and_action`: the trade action and the MT5 order type. -/
def mapOrderTypeAndAction (orderType : OrderType) (side : OrderSide) : Except Error (ℤ × ℤ) :=
  match orderType with
  | .market => .ok (tradeActionDeal, if side = .buy then orderTypeBuy else orderTypeSell)
  | .limit => .ok (tradeActionPending, if side = .buy then orderTypeBuyLimit else orderTypeSellLimit)
  | .stopMarket => .ok (tradeActionPending, if side = .buy then orderTypeBuyStop else orderTypeSellStop)
  | .stopLimit =>
    .ok (tradeActionPending, if side = .buy then orderTypeBuyStopLimit else orderTypeSellStopLimit)
  | t => .error (.valueError ("Unsupported OrderType: " ++ t.name))

/-- `map_filling_type`. -/
def mapFillingType : TimeInForce → ℤ
  | .fok => orderFillingFok
  | .ioc => orderFillingIoc
  | _ => orderFillingReturn

/-- `MAP_TIME_IN_FORCE.get(tif, ORDER_TIME_GTC)`; FOK and IOC are in the filling type. -/
def mapTimeInForce : TimeInForce → ℤ
  | .day => orderTimeDay
  | _ => orderTimeGtc

theorem mapOrderTypeAndAction_ok {orderType : OrderType} (side : OrderSide)
    (h : orderType ∈ supportedOrderTypes) : ∃ r, mapOrderTypeAndAction orderType side = .ok r := by
  simp only [supportedOrderTypes, List.mem_cons, List.not_mem_nil, or_false] at h
  obtain rfl | rfl | rfl | rfl := h <;> exact ⟨_, rfl⟩

/-! ## From MT5 to Nautilus -/

/-- `MT5_ORDER_TYPE_TO_ORDER_SIDE.get(type, OrderSide.BUY)`. -/
def mt5OrderTypeToOrderSide (mt5Type : ℤ) : OrderSide :=
  if mt5Type ∈ [orderTypeSell, orderTypeSellLimit, orderTypeSellStop, orderTypeSellStopLimit] then .sell
  else .buy

/-- `MT5_ORDER_TYPE_TO_ORDER_TYPE.get(type, OrderType.MARKET)`. -/
def mt5OrderTypeToOrderType (mt5Type : ℤ) : OrderType :=
  if mt5Type ∈ [orderTypeBuyLimit, orderTypeSellLimit] then .limit
  else if mt5Type ∈ [orderTypeBuyStop, orderTypeSellStop] then .stopMarket
  else if mt5Type ∈ [orderTypeBuyStopLimit, orderTypeSellStopLimit] then .stopLimit
  else .market

/-- `MAP_ORDER_STATUS.get(state, OrderStatus.SUBMITTED)`. -/
def mapOrderStatus (state : ℤ) : OrderStatus :=
  if state ∈ ([1, 7, 8, 9] : List ℤ) then .accepted
  else if state = 2 then .canceled
  else if state ∈ ([3, 4] : List ℤ) then .filled
  else if state = 5 then .rejected
  else if state = 6 then .expired
  else .submitted

/-- The time in force that a report reads off the filling type. -/
def fillingToTimeInForce (fillingType : ℤ) : TimeInForce :=
  if fillingType = 0 then .fok else if fillingType = 1 then .ioc else .gtc

theorem orderSide_of_map {orderType : OrderType} {side : OrderSide} {action mt5Type : ℤ}
    (hs : side ≠ .noOrderSide) (h : mapOrderTypeAndAction orderType side = .ok (action, mt5Type)) :
    mt5OrderTypeToOrderSide mt5Type = side := by
  cases side with
  | noOrderSide => exact absurd rfl hs
  | buy => cases orderType <;> cases h <;> rfl
  | sell => cases orderType <;> cases h <;> rfl

theorem orderType_of_map {orderType : OrderType} {side : OrderSide} {action mt5Type : ℤ}
    (h : mapOrderTypeAndAction orderType side = .ok (action, mt5Type)) :
    mt5OrderTypeToOrderType mt5Type = orderType := by
  cases side <;> cases orderType <;> cases h <;> rfl

/-- Among the supported values, a report gives back all but DAY. -/
theorem timeInForce_of_filling {timeInForce : TimeInForce} (h : timeInForce ∈ supportedTimeInForce) :
    fillingToTimeInForce (mapFillingType timeInForce) = timeInForce ↔ timeInForce ≠ .day := by
  simp only [supportedTimeInForce, List.mem_cons, List.not_mem_nil, or_false] at h
  obtain rfl | rfl | rfl | rfl := h <;> decide

example : validateOrderPreVenue .marketToLimit .gtc = .error (.valueError
    "MT5 adapter does not support OrderType.MARKET_TO_LIMIT. Supported types: LIMIT, MARKET, STOP_LIMIT, STOP_MARKET.")
    := by decide

end NautilusMt5
