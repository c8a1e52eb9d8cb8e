import LeverageKeeper.Config.Basic
import LeverageKeeper.Position.Form
import LeverageKeeper.Settings.Form

/-!
# Configuration files

How each part of the configuration is read from JSON, and what stands in for what is left out.
Decimals that count digits fit one byte.
-/

namespace LeverageKeeper

/-- A number of decimals. -/
def decimalsOfJson? (v : Json) : Option Nat := v.natUpTo? 255

namespace Logging

def fields : List String := ["log_dir", "file_prefix", "filter"]

def ofRow? : List (Option Json) → Option Logging
  | [dir, filePrefix, filter] => do
    return ⟨← Form.need? dir, ← Form.orElse? "fli-keeper.log" filePrefix,
      ← Form.orElse? none filter⟩
  | _ => none

def ofJson? (v : Json) : Option Logging := (v.row? fields).bind ofRow?

/-- The file of the application holds nothing but this part. -/
def ofFile? (v : Json) : Option Logging :=
  match v.row? ["logging"] with
  | some [logging] => Json.need? ofJson? logging
  | _ => none

end Logging

namespace WrittenAssets

def fields : List String :=
  ["collateral_asset", "borrow_asset", "collateral_price_oracle", "borrow_price_oracle",
    "collateral_decimals", "borrow_decimals", "oracle_decimals", "oracle_max_staleness_seconds"]

def ofRow? : List (Option Json) → Option WrittenAssets
  | [collateral, borrow, collateralFeed, borrowFeed, collateralDecimals, borrowDecimals,
      oracleDecimals, maxStaleness] => do
    return {
      collateral := ← Form.need? collateral
      borrow := ← Form.need? borrow
      collateralFeed := ← Form.need? collateralFeed
      borrowFeed := ← Form.need? borrowFeed
      collateralDecimals := ← Json.need? decimalsOfJson? collateralDecimals
      borrowDecimals := ← Json.need? decimalsOfJson? borrowDecimals
      oracleDecimals := ← Json.orElse? decimalsOfJson? 8 oracleDecimals
      maxStaleness := ← Form.need? maxStaleness }
  | _ => none

def ofJson? (v : Json) : Option WrittenAssets := (v.row? fields).bind ofRow?

end WrittenAssets

namespace VenueEntry

/-- A venue is an object with the fields of its terms among its own. -/
def ofJson? : Json → Option VenueEntry
  | .obj ms => do
    let terms ← (← Json.rowOfMembers? Terms.fields ms) |> Terms.ofRow?
    return ⟨← Form.need? (← Json.field? "name" ms), terms,
      ← Form.orElse? 0 (← Json.field? "paper_fee_bps" ms)⟩
  | _ => none

/-- Venues are set aside until the fields of their terms are found. -/
def ofFile? (v : Json) : Option (List VenueEntry) :=
  if v.keepable then Json.list? ofJson? v else none

end VenueEntry

namespace PaperSeed

def fields : List String :=
  ["initial_collateral", "max_ltv", "liquidation_threshold", "collateral_price", "borrow_price",
    "reward_deposit"]

def ofRow? : List (Option Json) → Option PaperSeed
  | [initialCollateral, maxLtv, liquidationThreshold, collateralPrice, borrowPrice,
      rewardDeposit] => do
    return {
      initialCollateral := ← Form.need? initialCollateral
      limits := ⟨← Form.need? maxLtv, ← Form.need? liquidationThreshold⟩
      prices := ⟨← Form.need? collateralPrice, ← Form.need? borrowPrice⟩
      rewardDeposit := ← Form.orElse? Decimal.zero rewardDeposit }
  | _ => none

def ofJson? (v : Json) : Option PaperSeed := (v.row? fields).bind ofRow?

end PaperSeed

namespace KeeperOptions

def fields : List String :=
  ["keeper_address", "operator_address", "allowed_callers", "anyone_callable",
    "poll_interval_seconds", "feed_poll_interval_seconds", "rpc_url", "engage_on_start", "paper"]

def ofRow? : List (Option Json) → Option KeeperOptions
  | [keeper, operator, allowed, anyoneCallable, pollInterval, feedPollInterval, rpcUrl,
      engageOnStart, paper] => do
    return {
      keeper := ← Form.need? keeper
      operator := ← Form.need? operator
      allowed := ← Form.orElse? [] allowed
      anyoneCallable := ← Form.orElse? false anyoneCallable
      pollInterval := ← Form.orElse? 15 pollInterval
      feedPollInterval := ← Form.orElse? 10 feedPollInterval
      rpcUrl := ← Form.orElse? none rpcUrl
      engageOnStart := ← Form.orElse? false engageOnStart
      paper := ← Json.need? PaperSeed.ofJson? paper }
  | _ => none

def ofJson? (v : Json) : Option KeeperOptions := (v.row? fields).bind ofRow?

end KeeperOptions

end LeverageKeeper
