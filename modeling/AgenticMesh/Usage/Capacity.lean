import Mathlib.Data.Option.Basic
import AgenticMesh.Base.Check
import AgenticMesh.Base.Decimal
import AgenticMesh.Base.Run
import AgenticMesh.Base.Tx
import AgenticMesh.Base.Upsert
import AgenticMesh.Schema

/-!
# Provider capacity

`UsageStore.record_capacity` keeps the latest observation of what a provider account
may still use.  The amounts of an observation are texts that a provider sends; they
are stored as numbers of the database and read back as the text of these numbers.
-/

namespace AgenticMesh.UsageStore

/-- The exceptions of the usage store. -/
inductive UsageError where
  | value (message : String)
  | notFound (message : String)
  | conflict (message : String)
  /-- `usage operation failed`. -/
  | database
deriving DecidableEq

/-! ## Observations -/

/-- A rate limit, as the provider reports it. -/
structure RateLimitWindow where
  usedPercent : ℤ
  resetsAt : Option Time
  windowMinutes : Option ℤ
deriving DecidableEq

/-- Credits, as the provider reports them. -/
structure ProviderCredits where
  balance : Option String
  hasCredits : Bool
  unlimited : Bool
deriving DecidableEq

/-- The texts are annotated as present, but the checks let `None` pass. -/
structure SpendControl where
  limit : Option String
  used : Option String
  remainingPercent : ℤ
  resetsAt : Time
deriving DecidableEq

/-- `ProviderCapacity`: what a provider reports. -/
structure ProviderCapacity where
  available : Bool
  limitId : Option String := none
  limitName : Option String := none
  planType : Option String := none
  primary : Option RateLimitWindow := none
  secondary : Option RateLimitWindow := none
  credits : Option ProviderCredits := none
  individualLimit : Option SpendControl := none
  resetCreditsAvailable : Option ℤ := none
  resetCreditsEarliestExpiry : Option Time := none
deriving DecidableEq

namespace ProviderCapacity

def unknown : ProviderCapacity where
  available := false

/-- The amounts that are given as texts. -/
def amounts (c : ProviderCapacity) : List String :=
  (c.credits.bind ProviderCredits.balance).toList ++
    (c.individualLimit.bind SpendControl.limit).toList ++
    (c.individualLimit.bind SpendControl.used).toList

/-- The numbers that are stored as integers. -/
def counts (c : ProviderCapacity) : List ℤ :=
  (c.primary.bind RateLimitWindow.windowMinutes).toList ++
    (c.secondary.bind RateLimitWindow.windowMinutes).toList ++ c.resetCreditsAvailable.toList

end ProviderCapacity

section Checks

-- the decimal digits outside ASCII
variable (digit : Char → Option (Fin 10))

/-- A Unicode digit as an ASCII one. -/
def asciiDigit (c : Char) : Char :=
  if c.toNat < 128 then c else (digit c).elim c fun n => Nat.digitChar n

/-- The exponents that the `decimal` module can represent. -/
def InRange (d : Decimal) : Prop :=
  d.adjusted ≤ 999999999999999999 ∧ -1999999999999999997 ≤ d.exponent

instance (d : Decimal) : Decidable (InRange d) := inferInstanceAs (Decidable (_ ∧ _))

/-- `Decimal(value)`, without infinities and NaN, which no amount may be. -/
def readDecimal (value : String) : Option Decimal :=
  (Decimal.parse (((strip value).toList.filter (· ≠ '_')).map (asciiDigit digit))).filter
    fun d => InRange d

/-- `_decimal`. -/
def decimalOf (value : Option String) (field : String) : Except UsageError (Option Decimal) :=
  match value with
  | none => .ok none
  | some value => do
    Check.that (strip value ≠ "" ∧ value.toList.length ≤ 128) (.value (field ++ " is invalid"))
    let d ← Check.found (readDecimal digit value) (.value (field ++ " is invalid"))
    Check.that (d.negative = false ∨ d.coefficient = 0) (.value (field ++ " is invalid"))
    return some d

/-- `_percent`. -/
def percent (value : ℤ) : Except UsageError Unit :=
  Check.that (0 ≤ value ∧ value ≤ 100) (.value "provider percentage is invalid")

/-- `_safe_label`. -/
def safeLabel (value : String) : Except UsageError Unit :=
  Check.that (strip value ≠ "" ∧ (strip value).toList.length ≤ 128 ∧
    (strip value).toList.all (fun c => decide (32 ≤ c.toNat)) = true)
    (.value "provider capacity label is invalid")

/-- The checks of a rate limit window. -/
def validateWindow (window : RateLimitWindow) : Except UsageError Unit := do
  percent window.usedPercent
  window.windowMinutes.toList.forM fun minutes =>
    Check.that (0 < minutes) (.value "provider capacity window is invalid")

/-- The checks of a spend control. -/
def validateSpendControl (item : SpendControl) : Except UsageError Unit := do
  let _ ← decimalOf digit item.limit "individual limit"
  let _ ← decimalOf digit item.used "individual used"
  percent item.remainingPercent

/-- `_validate_capacity`. -/
def validateCapacity (c : ProviderCapacity) : Except UsageError Unit :=
  if c.available then do
    (c.limitId.toList ++ c.limitName.toList ++ c.planType.toList).forM safeLabel
    (c.primary.toList ++ c.secondary.toList).forM validateWindow
    c.credits.toList.forM fun credits => do
      let _ ← decimalOf digit credits.balance "credit balance"
      return ()
    c.individualLimit.toList.forM (validateSpendControl digit)
    c.resetCreditsAvailable.toList.forM fun count =>
      Check.that (0 ≤ count) (.value "reset credit count is invalid")
  else
    Check.that (c = .unknown) (.value "unknown provider capacity must not contain values")

/-- `CapacityDraft`; its instants have a time zone. -/
structure CapacityDraft where
  projectId : String
  providerId : String
  accountScope : String
  observationId : String
  observedAt : Time
  capacity : ProviderCapacity
  project_id : isIdentifier projectId = true
  provider_id : isIdentifier providerId = true
  account_scope : isIdentifier accountScope = true
  observation_id : isIdentifier observationId = true
  valid : validateCapacity digit capacity = .ok ()

/-- The primary key of the row that a draft is stored in. -/
def CapacityDraft.account (d : CapacityDraft digit) : String × String × String :=
  (d.projectId, d.providerId, d.accountScope)

end Checks

/-! ## Rows -/

/-- `provider_capacity`. -/
structure CapacityRow where
  projectId : String
  providerId : String
  accountScope : String
  observationId : String
  available : Bool
  observedAt : Time
  limitId : Option String
  limitName : Option String
  planType : Option String
  primaryUsedPercent : Option ℤ
  primaryResetsAt : Option Time
  primaryWindowMinutes : Option ℤ
  secondaryUsedPercent : Option ℤ
  secondaryResetsAt : Option Time
  secondaryWindowMinutes : Option ℤ
  creditBalance : Option Decimal
  hasCredits : Option Bool
  unlimitedCredits : Option Bool
  individualLimit : Option Decimal
  individualUsed : Option Decimal
  individualRemainingPercent : Option ℤ
  individualResetsAt : Option Time
  resetCreditsAvailable : Option ℤ
  resetCreditsEarliestExpiry : Option Time
  updatedAt : Time
deriving DecidableEq

namespace CapacityRow

/-- The primary key. -/
def account (r : CapacityRow) : String × String × String :=
  (r.projectId, r.providerId, r.accountScope)

end CapacityRow

/-- The numbers that `numeric` can represent: 131072 digits before the point and 16383 after it;
a zero may be written with an exponent of at most 1073741823. -/
def Fits (d : Decimal) : Prop :=
  -16383 ≤ d.exponent ∧
    if d.coefficient = 0 then d.exponent ≤ 1073741823 else d.adjusted ≤ 131071

instance (d : Decimal) : Decidable (Fits d) := by
  unfold Fits
  infer_instance

/-- A number as a `numeric` column returns it: without exponent and without the sign of a zero. -/
def numeric (d : Decimal) : Option Decimal :=
  if Fits d then
    some ⟨d.negative && d.coefficient ≠ 0, d.coefficient * 10 ^ d.exponent.toNat, min d.exponent 0⟩
  else none

/-- The numbers of an `integer` column. -/
def IsInteger (n : ℤ) : Prop := -2147483648 ≤ n ∧ n ≤ 2147483647

instance (n : ℤ) : Decidable (IsInteger n) := inferInstanceAs (Decidable (_ ∧ _))

/-- `str(value)` of a number of the database. -/
def amountText (d : Decimal) : String := String.ofList d.text

section Store

variable {digit : Char → Option (Fin 10)}

/-- A text in a `numeric` column. -/
def numericColumn (digit : Char → Option (Fin 10)) (value : Option String) (field : String) :
    Option (Option Decimal) :=
  (decimalOf digit value field).toOption.bind fun
    | none => some none
    | some d => (numeric d).map some

/-- The row of a draft, given the numbers of its amounts. -/
def CapacityDraft.row (d : CapacityDraft digit) (now : Time)
    (creditBalance individualLimit individualUsed : Option Decimal) : CapacityRow :=
  let c := d.capacity
  { projectId := d.projectId, providerId := d.providerId, accountScope := d.accountScope
    observationId := d.observationId, available := c.available, observedAt := d.observedAt
    limitId := c.limitId, limitName := c.limitName, planType := c.planType
    primaryUsedPercent := c.primary.map (·.usedPercent)
    primaryResetsAt := c.primary.bind (·.resetsAt)
    primaryWindowMinutes := c.primary.bind (·.windowMinutes)
    secondaryUsedPercent := c.secondary.map (·.usedPercent)
    secondaryResetsAt := c.secondary.bind (·.resetsAt)
    secondaryWindowMinutes := c.secondary.bind (·.windowMinutes)
    creditBalance
    hasCredits := c.credits.map (·.hasCredits)
    unlimitedCredits := c.credits.map (·.unlimited)
    individualLimit, individualUsed
    individualRemainingPercent := c.individualLimit.map (·.remainingPercent)
    individualResetsAt := c.individualLimit.map (·.resetsAt)
    resetCreditsAvailable := c.resetCreditsAvailable
    resetCreditsEarliestExpiry := c.resetCreditsEarliestExpiry
    updatedAt := now }

/-- `_capacity_values` in the columns of a row; `none` when a number does not fit its column. -/
def capacityRow (d : CapacityDraft digit) (now : Time) : Option CapacityRow := do
  let c := d.capacity
  guard (∀ n ∈ c.counts, IsInteger n)
  let creditBalance ← numericColumn digit (c.credits.bind (·.balance)) "credit balance"
  let individualLimit ← numericColumn digit (c.individualLimit.bind (·.limit)) "individual limit"
  let individualUsed ← numericColumn digit (c.individualLimit.bind (·.used)) "individual used"
  return d.row now creditBalance individualLimit individualUsed

/-- `_window`. -/
def window (usedPercent : Option ℤ) (resetsAt : Option Time) (minutes : Option ℤ) :
    Option RateLimitWindow :=
  usedPercent.map fun usedPercent => ⟨usedPercent, resetsAt, minutes⟩

/-- The capacity of `_capacity_record_for_key`; the columns of the credits and of the limit are
set together. -/
def capacityOf (row : CapacityRow) : ProviderCapacity where
  available := row.available
  limitId := row.limitId
  limitName := row.limitName
  planType := row.planType
  primary := window row.primaryUsedPercent row.primaryResetsAt row.primaryWindowMinutes
  secondary := window row.secondaryUsedPercent row.secondaryResetsAt row.secondaryWindowMinutes
  credits := do
    let hasCredits ← row.hasCredits
    let unlimited ← row.unlimitedCredits
    return ⟨row.creditBalance.map amountText, hasCredits, unlimited⟩
  individualLimit := do
    let limit ← row.individualLimit
    let remainingPercent ← row.individualRemainingPercent
    let resetsAt ← row.individualResetsAt
    -- `str` of a missing number
    return ⟨some (amountText limit), some (row.individualUsed.elim "None" amountText),
      remainingPercent, resetsAt⟩
  resetCreditsAvailable := row.resetCreditsAvailable
  resetCreditsEarliestExpiry := row.resetCreditsEarliestExpiry

/-- `CapacityRecord`. -/
structure CapacityRecord where
  projectId : String
  providerId : String
  accountScope : String
  observationId : String
  observedAt : Time
  capacity : ProviderCapacity
  updatedAt : Time
deriving DecidableEq

/-- `_capacity_record`. -/
def capacityRecord (row : CapacityRow) : CapacityRecord where
  projectId := row.projectId
  providerId := row.providerId
  accountScope := row.accountScope
  observationId := row.observationId
  observedAt := row.observedAt
  capacity := capacityOf row
  updatedAt := row.updatedAt

/-- `_same_capacity`. -/
def SameCapacity (record : CapacityRecord) (d : CapacityDraft digit) : Prop :=
  record.observedAt = d.observedAt ∧ record.capacity = d.capacity

instance (record : CapacityRecord) (d : CapacityDraft digit) : Decidable (SameCapacity record d) :=
  inferInstanceAs (Decidable (_ ∧ _))

/-- The tables that the store reads and writes. -/
structure UsageDb where
  db : Db
  capacities : Table CapacityRow CapacityRow.account := ∅

/-- `INSERT INTO provider_capacity ... ON CONFLICT DO UPDATE`, against the unique index on the
project and the observation. -/
def UsageDb.putCapacity (row : CapacityRow) (s : UsageDb) : Option UsageDb :=
  if ∃ other ∈ s.capacities.rows, other.account ≠ row.account ∧
      (other.projectId, other.observationId) = (row.projectId, row.observationId) then none
  else some { s with capacities := s.capacities.put row }

/-- Store an observation. -/
def storeCapacity (d : CapacityDraft digit) (now : Time) :
    Tx UsageDb UsageError CapacityRecord := do
  let row ← Tx.demand (fun _ => capacityRow d now) .database
  Tx.attempt (UsageDb.putCapacity row) (.conflict "capacity observation id conflicts")
  return capacityRecord row

/-- `UsageStore.record_capacity`. -/
def recordCapacity (d : CapacityDraft digit) (now : Time) :
    Tx UsageDb UsageError CapacityRecord := do
  let _ ← Tx.demand (fun s => s.db.projects.lookup d.projectId) (.notFound "project not found")
  let row ← Tx.query fun s => s.capacities.lookup d.account
  match row with
  | none => storeCapacity d now
  | some row =>
    let current := capacityRecord row
    if current.observationId = d.observationId then
      if SameCapacity current d then return current
      else Tx.fail (.conflict "capacity observation id is already used differently")
    else if d.observedAt ≤ current.observedAt then return current
    else storeCapacity d now

end Store

/-! ## Amounts -/

section Amounts

variable {digit : Char → Option (Fin 10)}

/-- The characters of a number stay as they are when a text is read. -/
lemma readDecimal_text {d : Decimal} (h : InRange d) :
    readDecimal digit (amountText d) = some d := by
  have hchar : ∀ c ∈ d.text, isSpace c = false ∧ c ≠ '_' ∧ c.toNat < 128 := by
    intro c hc
    have hnumeral := Decimal.isNumeralChar_text hc
    simp only [Decimal.isNumeralChar, Bool.or_eq_true, beq_iff_eq] at hnumeral
    rcases hnumeral with (((hdigit | rfl) | rfl) | rfl) | rfl
    · have hrange : 48 ≤ c.toNat ∧ c.toNat ≤ 57 := by
        simp only [Char.isDigit, Bool.and_eq_true, decide_eq_true_eq] at hdigit
        exact ⟨hdigit.1, hdigit.2⟩
      refine ⟨?_, ?_, by omega⟩
      · simp only [isSpace, Bool.or_eq_false_iff, Bool.and_eq_false_iff, decide_eq_false_iff_not,
          beq_eq_false_iff_ne]
        omega
      · rintro rfl
        exact absurd hrange (by decide)
    · decide
    · decide
    · decide
    · decide
  have hstrip : strip (amountText d) = amountText d := by
    refine strip_eq_self fun c hc => (hchar c ?_).1
    rwa [amountText, String.toList_ofList] at hc
  have hfilter : d.text.filter (· ≠ '_') = d.text :=
    List.filter_eq_self.2 fun c hc => by simpa using (hchar c hc).2.1
  have hmap : d.text.map (asciiDigit digit) = d.text := by
    refine (List.map_congr_left fun c hc => ?_).trans (List.map_id' _)
    rw [asciiDigit, if_pos (hchar c hc).2.2]
  rw [readDecimal, hstrip, amountText, String.toList_ofList, hfilter, hmap, Decimal.parse_text]
  simp [Option.filter, h]

/-- A text that the number it stands for is printed as, with a number that is stored as it is: no
sign, and no exponent that has to be multiplied out. -/
def Canonical (digit : Char → Option (Fin 10)) (value : String) : Prop :=
  ∃ d, readDecimal digit value = some d ∧ d.negative = false ∧ -16383 ≤ d.exponent ∧
    d.exponent ≤ 0 ∧ amountText d = value

/-- An amount that passes `_decimal`. -/
structure IsAmount (digit : Char → Option (Fin 10)) (value : String) (d : Decimal) : Prop where
  length : value.toList.length ≤ 128
  read : readDecimal digit value = some d
  sign : d.negative = false ∨ d.coefficient = 0

lemma decimalOf_ok {value field : String} {o : Option Decimal} :
    decimalOf digit (some value) field = .ok o →
      ∃ d, o = some d ∧ IsAmount digit value d := by
  intro h
  simp only [decimalOf, Check.bind_ok, Check.that_ok, Check.found_ok, Check.pure_ok] at h
  obtain ⟨-, ⟨-, hlength⟩, d, hread, -, hsign, rfl⟩ := h
  exact ⟨d, rfl, hlength, hread, hsign⟩

/-- A number of at most 128 characters is not large. -/
lemma adjusted_le {d : Decimal} {value : String} (htext : amountText d = value)
    (hlength : value.toList.length ≤ 128) (hexponent : d.exponent ≤ 0) : d.adjusted ≤ 127 := by
  have hdigits := d.length_digits_le
  have htoList : d.text = value.toList := by
    rw [← htext, amountText, String.toList_ofList]
  rw [htoList] at hdigits
  simp only [Decimal.adjusted]
  omega

/-- What a number is stored as is printed as the text it was read from exactly if that text is
canonical. -/
lemma numeric_text_iff {value : String} {d : Decimal} (h : IsAmount digit value d) :
    (∃ stored, numeric d = some stored ∧ amountText stored = value) ↔ Canonical digit value := by
  constructor
  · rintro ⟨stored, hnumeric, htext⟩
    unfold numeric at hnumeric
    split at hnumeric
    · next hfits =>
      have hsign : (d.negative && decide (d.coefficient ≠ 0)) = false := by
        rcases h.sign with hsign | hzero
        · simp [hsign]
        · simp [hzero]
      obtain rfl := Option.some.inj hnumeric
      rw [hsign] at htext
      have hexponent : min d.exponent 0 ≤ 0 := min_le_right _ _
      have hlow : -16383 ≤ min d.exponent 0 := le_min hfits.1 (by decide)
      have hadjusted := adjusted_le htext h.length hexponent
      have hrange : InRange ⟨false, d.coefficient * 10 ^ d.exponent.toNat, min d.exponent 0⟩ :=
        ⟨by omega, le_trans (by decide) hlow⟩
      have hread : readDecimal digit (amountText _) = some _ := readDecimal_text hrange
      rw [htext] at hread
      exact ⟨_, hread, rfl, hlow, hexponent, htext⟩
    · exact absurd hnumeric (by simp)
  · rintro ⟨d', hread, hsign, hlow, hexponent, htext⟩
    obtain rfl : d = d' := Option.some.inj (h.read.symm.trans hread)
    have hadjusted := adjusted_le htext h.length hexponent
    have hfits : Fits d := by
      refine ⟨hlow, ?_⟩
      split
      · omega
      · omega
    refine ⟨d, ?_, htext⟩
    have hzero : d.exponent.toNat = 0 := by omega
    rw [numeric, if_pos hfits, hsign, hzero, min_eq_left hexponent]
    obtain ⟨negative, coefficient, exponent⟩ := d
    simp_all

/-- A text in a `numeric` column. -/
lemma numericColumn_some {value field : String} {d : Decimal} {o : Option Decimal}
    (hvalid : decimalOf digit (some value) field = .ok o) (h : IsAmount digit value d) :
    numericColumn digit (some value) field = (numeric d).map some := by
  obtain ⟨d', rfl, hd'⟩ := decimalOf_ok hvalid
  obtain rfl : d = d' := Option.some.inj (h.read.symm.trans hd'.read)
  rw [numericColumn, hvalid]
  rfl

/-! ## What is stored -/

/-- The texts of a valid draft are amounts, and its numbers are not negative. -/
structure ValidCapacity (digit : Char → Option (Fin 10)) (c : ProviderCapacity) : Prop where
  balance : ∀ credits ∈ c.credits, ∃ o, decimalOf digit credits.balance "credit balance" = .ok o
  limit : ∀ item ∈ c.individualLimit, ∃ o, decimalOf digit item.limit "individual limit" = .ok o
  used : ∀ item ∈ c.individualLimit, ∃ o, decimalOf digit item.used "individual used" = .ok o
  counts : ∀ n ∈ c.counts, 0 ≤ n

lemma CapacityDraft.isValid (d : CapacityDraft digit) : ValidCapacity digit d.capacity := by
  have h := d.valid
  unfold validateCapacity at h
  split at h
  · simp only [Check.bind_ok, Check.forM_ok, Check.pure_ok, validateWindow, validateSpendControl,
      Check.that_ok, percent] at h
    obtain ⟨-, -, -, hwindows, -, hcredits, -, hlimits, hcount⟩ := h
    refine ⟨fun credits hmem => ?_, fun item hmem => ?_, fun item hmem => ?_, fun n hn => ?_⟩
    · obtain ⟨o, ho, -⟩ := hcredits credits (by simpa using hmem)
      exact ⟨o, ho⟩
    · obtain ⟨o, ho, -⟩ := hlimits item (by simpa using hmem)
      exact ⟨o, ho⟩
    · obtain ⟨-, -, o, ho, -⟩ := hlimits item (by simpa using hmem)
      exact ⟨o, ho⟩
    · simp only [ProviderCapacity.counts, List.mem_append, Option.mem_toList,
        Option.bind_eq_some_iff] at hn
      rcases hn with (⟨w, hw, hn⟩ | ⟨w, hw, hn⟩) | hn
      · obtain ⟨-, -, hminutes⟩ := hwindows w (by simp [hw])
        exact (hminutes n (by simpa using hn)).le
      · obtain ⟨-, -, hminutes⟩ := hwindows w (by simp [hw])
        exact (hminutes n (by simpa using hn)).le
      · exact hcount n (by simpa using hn)
  · rw [Check.that_ok] at h
    rw [h]
    refine ⟨?_, ?_, ?_, ?_⟩ <;> simp [ProviderCapacity.unknown, ProviderCapacity.counts]

/-- The numbers of a draft fit into their columns. -/
structure Storable (d : CapacityDraft digit) : Prop where
  counts : ∀ n ∈ d.capacity.counts, n ≤ 2147483647
  amounts : ∀ value ∈ d.capacity.amounts, ∀ a, readDecimal digit value = some a → Fits a

/-- The amounts of a draft are canonical, and a spend control has both. -/
structure Exact (d : CapacityDraft digit) : Prop where
  canonical : ∀ value ∈ d.capacity.amounts, Canonical digit value
  present : ∀ item ∈ d.capacity.individualLimit, item.limit.isSome ∧ item.used.isSome

/-- A column of a draft that passes its checks. -/
lemma numericColumn_eq_some {value : Option String} {field : String} {number : Option Decimal}
    (hvalid : ∃ o, decimalOf digit value field = .ok o) :
    numericColumn digit value field = some number ↔
      (value = none ∧ number = none) ∨
        ∃ text a stored, value = some text ∧ IsAmount digit text a ∧ numeric a = some stored ∧
          number = some stored := by
  obtain ⟨o, ho⟩ := hvalid
  cases value with
  | none =>
    obtain rfl : none = o := Except.ok.inj ho
    simp [numericColumn, decimalOf, Except.toOption, eq_comm]
  | some text =>
    obtain ⟨a, rfl, ha⟩ := decimalOf_ok ho
    rw [numericColumn_some ho ha, Option.map_eq_some_iff]
    constructor
    · rintro ⟨stored, hstored, rfl⟩
      exact Or.inr ⟨text, a, stored, rfl, ha, hstored, rfl⟩
    · rintro (⟨hnone, -⟩ | ⟨text', a', stored, htext, ha', hstored, rfl⟩)
      · cases hnone
      · obtain rfl := Option.some.inj htext
        obtain rfl : a = a' := Option.some.inj (ha.read.symm.trans ha'.read)
        exact ⟨stored, hstored, rfl⟩

/-- What a column of a draft is printed as. -/
lemma column_text_iff {value : Option String} {field : String} {number : Option Decimal}
    (hvalid : ∃ o, decimalOf digit value field = .ok o)
    (h : numericColumn digit value field = some number) :
    number.map amountText = value ↔ ∀ text ∈ value, Canonical digit text := by
  rcases (numericColumn_eq_some hvalid).1 h with
    ⟨rfl, rfl⟩ | ⟨text, a, stored, rfl, ha, hstored, rfl⟩
  · simp
  · have hcanonical := numeric_text_iff ha
    constructor
    · intro htext value hvalue
      obtain rfl : text = value := by simpa using hvalue
      exact hcanonical.1 ⟨stored, hstored, by simpa using htext⟩
    · intro hall
      obtain ⟨stored', hstored', htext⟩ := hcanonical.2 (hall text (by simp))
      obtain rfl : stored = stored' := Option.some.inj (hstored.symm.trans hstored')
      simp [htext]

/-- A column of a draft is stored exactly if its number fits. -/
lemma column_fits_iff {value : Option String} {field : String}
    (hvalid : ∃ o, decimalOf digit value field = .ok o) :
    (∃ number, numericColumn digit value field = some number) ↔
      ∀ text ∈ value, ∀ a, readDecimal digit text = some a → Fits a := by
  constructor
  · rintro ⟨number, h⟩ text htext a ha
    rcases (numericColumn_eq_some hvalid).1 h with ⟨rfl, -⟩ | ⟨text', a', stored, rfl, ha', hs, -⟩
    · cases htext
    · obtain rfl : text' = text := by simpa using htext
      obtain rfl : a' = a := Option.some.inj (ha'.read.symm.trans ha)
      by_contra hfits
      rw [numeric, if_neg hfits] at hs
      cases hs
  · intro h
    cases value with
    | none => exact ⟨none, (numericColumn_eq_some hvalid).2 (Or.inl ⟨rfl, rfl⟩)⟩
    | some text =>
      obtain ⟨o, ho⟩ := hvalid
      obtain ⟨a, -, ha⟩ := decimalOf_ok ho
      have hfits := h text (by simp) a ha.read
      exact ⟨_, (numericColumn_eq_some ⟨o, ho⟩).2
        (Or.inr ⟨text, a, _, rfl, ha, if_pos hfits, rfl⟩)⟩

variable {d : CapacityDraft digit} {now : Time} {row : CapacityRow}

/-- The columns of the amounts pass their checks. -/
lemma CapacityDraft.columns (d : CapacityDraft digit) :
    (∃ o, decimalOf digit (d.capacity.credits.bind (·.balance)) "credit balance" = .ok o) ∧
      (∃ o, decimalOf digit (d.capacity.individualLimit.bind (·.limit)) "individual limit" =
        .ok o) ∧
      ∃ o, decimalOf digit (d.capacity.individualLimit.bind (·.used)) "individual used" =
        .ok o := by
  have h := d.isValid
  refine ⟨?_, ?_, ?_⟩
  · cases hcredits : d.capacity.credits with
    | none => exact ⟨none, rfl⟩
    | some credits => exact h.balance credits hcredits
  · cases hlimit : d.capacity.individualLimit with
    | none => exact ⟨none, rfl⟩
    | some item => exact h.limit item hlimit
  · cases hlimit : d.capacity.individualLimit with
    | none => exact ⟨none, rfl⟩
    | some item => exact h.used item hlimit

/-- The numbers of the amounts of a draft. -/
structure Columns (d : CapacityDraft digit) (balance limit used : Option Decimal) : Prop where
  balance : numericColumn digit (d.capacity.credits.bind (·.balance)) "credit balance" =
    some balance
  limit : numericColumn digit (d.capacity.individualLimit.bind (·.limit)) "individual limit" =
    some limit
  used : numericColumn digit (d.capacity.individualLimit.bind (·.used)) "individual used" =
    some used

lemma capacityRow_eq_some : capacityRow d now = some row ↔
    (∀ n ∈ d.capacity.counts, IsInteger n) ∧
      ∃ balance limit used, Columns d balance limit used ∧ row = d.row now balance limit used := by
  simp only [capacityRow, Option.bind_eq_bind, Option.bind_eq_some_iff, Option.guard_eq_some',
    Option.pure_def, Option.some.injEq]
  constructor
  · rintro ⟨-, hcounts, balance, hbalance, limit, hlimit, used, hused, rfl⟩
    exact ⟨hcounts, balance, limit, used, ⟨hbalance, hlimit, hused⟩, rfl⟩
  · rintro ⟨hcounts, balance, limit, used, ⟨hbalance, hlimit, hused⟩, rfl⟩
    exact ⟨(), hcounts, balance, hbalance, limit, hlimit, used, hused, rfl⟩

lemma mem_amounts {value : String} : value ∈ d.capacity.amounts ↔
    d.capacity.credits.bind (·.balance) = some value ∨
      d.capacity.individualLimit.bind (·.limit) = some value ∨
        d.capacity.individualLimit.bind (·.used) = some value := by
  simp only [ProviderCapacity.amounts, List.mem_append, Option.mem_toList, or_assoc]

/-- A draft has a row exactly if its numbers fit. -/
lemma exists_capacityRow_iff : (∃ row, capacityRow d now = some row) ↔ Storable d := by
  obtain ⟨hbalance, hlimit, hused⟩ := d.columns
  constructor
  · rintro ⟨row, hrow⟩
    obtain ⟨hcounts, balance, limit, used, hcolumns, -⟩ := capacityRow_eq_some.1 hrow
    refine ⟨fun n hn => (hcounts n hn).2, fun value hvalue => ?_⟩
    rcases mem_amounts.1 hvalue with hvalue | hvalue | hvalue
    · exact (column_fits_iff hbalance).1 ⟨_, hcolumns.balance⟩ value hvalue
    · exact (column_fits_iff hlimit).1 ⟨_, hcolumns.limit⟩ value hvalue
    · exact (column_fits_iff hused).1 ⟨_, hcolumns.used⟩ value hvalue
  · intro h
    have hcounts : ∀ n ∈ d.capacity.counts, IsInteger n := fun n hn =>
      ⟨le_trans (by decide) (d.isValid.counts n hn), h.counts n hn⟩
    obtain ⟨balance, hb⟩ := (column_fits_iff hbalance).2 fun value hvalue =>
      h.amounts value (mem_amounts.2 (Or.inl hvalue))
    obtain ⟨limit, hl⟩ := (column_fits_iff hlimit).2 fun value hvalue =>
      h.amounts value (mem_amounts.2 (Or.inr (Or.inl hvalue)))
    obtain ⟨used, hu⟩ := (column_fits_iff hused).2 fun value hvalue =>
      h.amounts value (mem_amounts.2 (Or.inr (Or.inr hvalue)))
    exact ⟨_, capacityRow_eq_some.2 ⟨hcounts, balance, limit, used, ⟨hb, hl, hu⟩, rfl⟩⟩

/-- A stored draft is read back as it was given exactly if its amounts are canonical. -/
lemma capacityOf_row_iff (hrow : capacityRow d now = some row) :
    capacityOf row = d.capacity ↔ Exact d := by
  obtain ⟨hvalidBalance, hvalidLimit, hvalidUsed⟩ := d.columns
  obtain ⟨-, balance, limit, used, ⟨hbalance, hlimit, hused⟩, rfl⟩ := capacityRow_eq_some.1 hrow
  have hb := column_text_iff hvalidBalance hbalance
  have hl := column_text_iff hvalidLimit hlimit
  have hu := column_text_iff hvalidUsed hused
  have hwindow : ∀ w : Option RateLimitWindow,
      window (w.map (·.usedPercent)) (w.bind (·.resetsAt)) (w.bind (·.windowMinutes)) = w := by
    rintro (_ | w) <;> rfl
  have hcredits : (capacityOf (d.row now balance limit used)).credits = d.capacity.credits ↔
      balance.map amountText = d.capacity.credits.bind (·.balance) := by
    cases hc : d.capacity.credits with
    | none =>
      rw [hc] at hbalance
      obtain rfl : none = balance := Option.some.inj hbalance
      simp [capacityOf, CapacityDraft.row, hc]
    | some credits =>
      obtain ⟨text, hasCredits, unlimited⟩ := credits
      simp [capacityOf, CapacityDraft.row, hc]
  have hindividual : (capacityOf (d.row now balance limit used)).individualLimit =
      d.capacity.individualLimit ↔
      (∀ item ∈ d.capacity.individualLimit, item.limit.isSome ∧ item.used.isSome) ∧
        limit.map amountText = d.capacity.individualLimit.bind (·.limit) ∧
        used.map amountText = d.capacity.individualLimit.bind (·.used) := by
    cases hi : d.capacity.individualLimit with
    | none =>
      rw [hi] at hlimit hused
      obtain rfl : none = limit := Option.some.inj hlimit
      obtain rfl : none = used := Option.some.inj hused
      simp [capacityOf, CapacityDraft.row]
    | some item =>
      obtain ⟨limitText, usedText, remaining, resets⟩ := item
      rcases (numericColumn_eq_some hvalidLimit).1 hlimit with
        ⟨hnone, rfl⟩ | ⟨l, al, sl, hsome, -, -, rfl⟩ <;>
        rcases (numericColumn_eq_some hvalidUsed).1 hused with
          ⟨hnone', rfl⟩ | ⟨u, au, su, hsome', -, -, rfl⟩ <;>
        simp_all [capacityOf, CapacityDraft.row]
  have hrest : capacityOf (d.row now balance limit used) = d.capacity ↔
      (capacityOf (d.row now balance limit used)).credits = d.capacity.credits ∧
        (capacityOf (d.row now balance limit used)).individualLimit =
          d.capacity.individualLimit := by
    constructor
    · intro h
      rw [h]
      exact ⟨rfl, rfl⟩
    · rintro ⟨hc, hi⟩
      have hprimary := hwindow d.capacity.primary
      have hsecondary := hwindow d.capacity.secondary
      rcases hcapacity : d.capacity with
        ⟨available, limitId, limitName, planType, primary, secondary, credits, item, count, expiry⟩
      rw [hcapacity] at hc hi hprimary hsecondary
      simp_all [capacityOf, CapacityDraft.row]
  rw [hrest, hcredits, hindividual, hb, hl, hu]
  constructor
  · rintro ⟨hbalance, hpresent, hlimit, hused⟩
    refine ⟨fun value hvalue => ?_, hpresent⟩
    rcases mem_amounts.1 hvalue with hvalue | hvalue | hvalue
    · exact hbalance value hvalue
    · exact hlimit value hvalue
    · exact hused value hvalue
  · intro h
    refine ⟨fun value hvalue => h.canonical value (mem_amounts.2 (Or.inl hvalue)), h.present,
      fun value hvalue => h.canonical value (mem_amounts.2 (Or.inr (Or.inl hvalue))),
      fun value hvalue => h.canonical value (mem_amounts.2 (Or.inr (Or.inr hvalue)))⟩

end Amounts

/-! ## Recording -/

section Record

variable {digit : Char → Option (Fin 10)} {d : CapacityDraft digit} {now : Time}
  {row current : CapacityRow} {s s' : UsageDb}

/-- The project of a draft exists. -/
def Known (d : CapacityDraft digit) (s : UsageDb) : Prop :=
  (s.db.projects.lookup d.projectId).isSome

/-- No row of the project has the observation of a draft. -/
def Own (d : CapacityDraft digit) (s : UsageDb) : Prop :=
  ∀ r ∈ s.capacities, r.projectId = d.projectId → r.observationId ≠ d.observationId

/-- The columns of a row that its observation names. -/
lemma row_of_capacityRow (h : capacityRow d now = some row) :
    row.account = d.account ∧ row.projectId = d.projectId ∧
      row.observationId = d.observationId ∧ row.observedAt = d.observedAt := by
  obtain ⟨-, balance, limit, used, -, rfl⟩ := capacityRow_eq_some.1 h
  exact ⟨rfl, rfl, rfl, rfl⟩

/-- What recording does in a project that exists. -/
lemma record_known (hknown : Known d s) : recordCapacity d now s =
    match s.capacities.lookup d.account with
    | none => storeCapacity d now s
    | some row =>
      if row.observationId = d.observationId then
        if SameCapacity (capacityRecord row) d then .ok (capacityRecord row, s)
        else .error (.conflict "capacity observation id is already used differently")
      else if d.observedAt ≤ row.observedAt then .ok (capacityRecord row, s)
      else storeCapacity d now s := by
  obtain ⟨project, hproject⟩ := Option.isSome_iff_exists.1 hknown
  have hdemand : Tx.demand (fun s : UsageDb => s.db.projects.lookup d.projectId)
      (UsageError.notFound "project not found") s = .ok (project, s) :=
    Tx.demand_of_some hproject
  rw [recordCapacity, Tx.bind_of_ok hdemand]
  have hquery : Tx.query (fun s : UsageDb => s.capacities.lookup d.account) s =
      (.ok (s.capacities.lookup d.account, s) : Except UsageError _) := rfl
  rw [Tx.bind_of_ok hquery]
  cases s.capacities.lookup d.account with
  | none => rfl
  | some row =>
    have hid : (capacityRecord row).observationId = row.observationId := rfl
    have htime : (capacityRecord row).observedAt = row.observedAt := rfl
    simp only [hid, htime]
    split
    · split <;> rfl
    · split <;> rfl

lemma record_none (hknown : Known d s) (h : s.capacities.lookup d.account = none) :
    recordCapacity d now s = storeCapacity d now s := by
  rw [record_known hknown, h]

lemma record_same (hknown : Known d s) (h : s.capacities.lookup d.account = some current)
    (hid : current.observationId = d.observationId) :
    recordCapacity d now s = if SameCapacity (capacityRecord current) d
      then .ok (capacityRecord current, s)
      else .error (.conflict "capacity observation id is already used differently") := by
  rw [record_known hknown, h]
  exact if_pos hid

lemma record_other (hknown : Known d s) (h : s.capacities.lookup d.account = some current)
    (hid : current.observationId ≠ d.observationId) :
    recordCapacity d now s = if d.observedAt ≤ current.observedAt
      then .ok (capacityRecord current, s) else storeCapacity d now s := by
  rw [record_known hknown, h]
  exact if_neg hid

lemma storeCapacity_ok {record : CapacityRecord} :
    storeCapacity d now s = .ok (record, s') ↔ ∃ row, capacityRow d now = some row ∧
      UsageDb.putCapacity row s = some s' ∧ record = capacityRecord row := by
  rw [storeCapacity, Tx.bind_ok]
  simp only [Tx.demand_ok, Tx.attempt_bind_ok, Tx.pure_ok, Prod.mk.injEq]
  constructor
  · rintro ⟨row, _, ⟨hrow, rfl⟩, t, ht, rfl, rfl⟩
    exact ⟨row, hrow, ht, rfl⟩
  · rintro ⟨row, hrow, ht, rfl⟩
    exact ⟨row, s, ⟨hrow, rfl⟩, s', ht, rfl, rfl⟩

/-- The row of an observation of its own replaces the one of its account. -/
lemma putCapacity_of_own (hown : ∀ r ∈ s.capacities, r.account ≠ row.account →
      r.projectId = row.projectId → r.observationId ≠ row.observationId) :
    UsageDb.putCapacity row s = some { s with capacities := s.capacities.put row } := by
  rw [UsageDb.putCapacity, if_neg]
  rintro ⟨other, hother, hne, hsame⟩
  obtain ⟨hproject, hid⟩ := Prod.mk.inj hsame
  exact hown other hother hne hproject hid

/-- Storing an observation of its own. -/
lemma store_of_own (hrow : capacityRow d now = some row) (hown : Own d s) :
    storeCapacity d now s =
      .ok (capacityRecord row, { s with capacities := s.capacities.put row }) := by
  obtain ⟨-, hproject, hid, -⟩ := row_of_capacityRow hrow
  refine storeCapacity_ok.2 ⟨row, hrow, putCapacity_of_own fun r hr _ hr' => ?_, rfl⟩
  rw [hid]
  exact hown r hr (hr'.trans hproject)

/-! ## Recording twice -/

/-- Recording an observation of its own a second time returns the stored record. -/
def Idempotent (d : CapacityDraft digit) : Prop :=
  ∀ s now later, Known d s → Own d s → ∃ first s',
    recordCapacity d now s = .ok (first, s') ∧ ∃ record,
      recordCapacity d later s' = .ok (record, s') ∧
        (s'.capacities.lookup d.account).map capacityRecord = some record

/-- The second recording of a stored observation. -/
lemma record_again (hknown : Known d s) (hrow : capacityRow d now = some row) {later : Time}
    {record : CapacityRecord} {t : UsageDb} :
    recordCapacity d later { s with capacities := s.capacities.put row } = .ok (record, t) ↔
      Exact d ∧ record = capacityRecord row ∧
      t = { s with capacities := s.capacities.put row } := by
  obtain ⟨haccount, -, hid, htime⟩ := row_of_capacityRow hrow
  have hlookup : (s.capacities.put row).lookup d.account = some row := by
    rw [Table.lookup_put, if_pos haccount]
  have hsame : SameCapacity (capacityRecord row) d ↔ Exact d := by
    rw [← capacityOf_row_iff hrow]
    exact ⟨fun h => h.2, fun h => ⟨htime, h⟩⟩
  have hstored : Known d { s with capacities := s.capacities.put row } := hknown
  rw [record_same hstored hlookup hid, ← hsame]
  split
  · next h => simp [h, eq_comm]
  · next h => simp [h]

lemma idempotent_iff (d : CapacityDraft digit) : Idempotent d ↔ Storable d ∧ Exact d := by
  constructor
  · intro h
    let start : UsageDb := { db := { projects := ⟨[⟨d.projectId, "active"⟩], by simp⟩ } }
    have hknown : Known d start := by simp [Known, start, Table.lookup, Table.find, Project.key]
    obtain ⟨first, s', hfirst, record, hsecond, -⟩ :=
      h start 0 0 hknown fun r hr => absurd hr (Table.notMem_empty r)
    rw [record_none hknown rfl] at hfirst
    obtain ⟨row, hrow, hput, rfl⟩ := storeCapacity_ok.1 hfirst
    rw [putCapacity_of_own fun r hr => absurd hr (Table.notMem_empty r)] at hput
    obtain rfl := Option.some.inj hput
    exact ⟨exists_capacityRow_iff.1 ⟨row, hrow⟩, ((record_again hknown hrow).1 hsecond).1⟩
  · rintro ⟨hstorable, hexact⟩ s now later hknown hown
    obtain ⟨row, hrow⟩ : ∃ row, capacityRow d now = some row :=
      exists_capacityRow_iff.2 hstorable
    obtain ⟨haccount, -, -, -⟩ := row_of_capacityRow hrow
    have hstored : storeCapacity d now s = recordCapacity d now s → ∃ first s',
        recordCapacity d now s = .ok (first, s') ∧ ∃ record,
          recordCapacity d later s' = .ok (record, s') ∧
            (s'.capacities.lookup d.account).map capacityRecord = some record := by
      intro hstore
      refine ⟨_, _, hstore.symm.trans (store_of_own hrow hown), capacityRecord row, ?_, ?_⟩
      · exact (record_again hknown hrow).2 ⟨hexact, rfl, rfl⟩
      · simp only
        rw [Table.lookup_put, if_pos haccount]
        rfl
    cases hlookup : s.capacities.lookup d.account with
    | none => exact hstored (record_none hknown hlookup).symm
    | some current =>
      obtain ⟨hmem, hkey⟩ := Table.lookup_eq_some.1 hlookup
      have hid : current.observationId ≠ d.observationId :=
        hown current hmem (Prod.mk.inj hkey).1
      by_cases htime : d.observedAt ≤ current.observedAt
      · have hrecord : ∀ t, recordCapacity d t s = .ok (capacityRecord current, s) := fun t => by
          rw [record_other hknown hlookup hid, if_pos htime]
        exact ⟨_, s, hrecord now, _, hrecord later, by rw [hlookup]; rfl⟩
      · refine hstored ?_
        rw [record_other hknown hlookup hid, if_neg htime]

/-! ## The last observation -/

/-- Observations of one account with distinct identifiers and times, and the latest of them. -/
structure Observations (digit : Char → Option (Fin 10)) where
  drafts : List (CapacityDraft digit)
  latest : CapacityDraft digit
  latest_mem : latest ∈ drafts
  account : ∀ d ∈ drafts, d.account = latest.account
  ids : (drafts.map (·.observationId)).Nodup
  times : (drafts.map (·.observedAt)).Nodup
  le_latest : ∀ d ∈ drafts, d.observedAt ≤ latest.observedAt

/-- A draft arrives at an instant of the database clock. -/
def arrive (s : UsageDb) (arrival : CapacityDraft digit × Time) : UsageDb :=
  (recordCapacity arrival.1 arrival.2).commit s

/-- Whatever the order in which the observations of an account arrive, the row of the account is
the one of the latest observation. -/
def LastObservationWins (o : Observations digit) : Prop :=
  ∀ s arrivals, Known o.latest s → s.capacities.lookup o.latest.account = none →
    (∀ d ∈ o.drafts, Own d s) → (arrivals.map Prod.fst).Perm o.drafts →
      ∃ row now, (run arrive s arrivals).capacities.lookup o.latest.account = some row ∧
        capacityRow o.latest now = some row

variable {o : Observations digit}

/-- What the arrivals so far have left: the row of the account is one of theirs, and the one of
the latest observation if that is among them. -/
structure Arrived (o : Observations digit) (start : UsageDb) (done : List (CapacityDraft digit))
    (s : UsageDb) : Prop where
  known : Known o.latest s
  others : ∀ r ∈ s.capacities, r.account ≠ o.latest.account → r ∈ start.capacities
  row : ∀ r, s.capacities.lookup o.latest.account = some r →
    ∃ d ∈ done, ∃ now, capacityRow d now = some r
  latest : o.latest ∈ done → ∃ r now,
    s.capacities.lookup o.latest.account = some r ∧ capacityRow o.latest now = some r

/-- An observation that is stored. -/
lemma Arrived.store {start : UsageDb} {done : List (CapacityDraft digit)}
    (h : Arrived o start done s) (hd : d ∈ o.drafts) (hlatest : o.latest ∈ done → d = o.latest)
    (hrow : capacityRow d now = some row) :
    Arrived o start (d :: done) { s with capacities := s.capacities.put row } := by
  have haccount : row.account = o.latest.account :=
    (row_of_capacityRow hrow).1.trans (o.account d hd)
  have hlookup : (s.capacities.put row).lookup o.latest.account = some row := by
    rw [Table.lookup_put, if_pos haccount]
  refine ⟨h.known, fun r hr hne => ?_, fun r hr => ?_, fun hmem => ?_⟩
  · rcases Table.mem_put.1 hr with rfl | ⟨hr, -⟩
    · exact absurd haccount hne
    · exact h.others r hr hne
  · obtain rfl : row = r := Option.some.inj (hlookup.symm.trans hr)
    exact ⟨d, List.mem_cons_self, now, hrow⟩
  · obtain rfl : d = o.latest := by
      rcases List.mem_cons.1 hmem with hsame | hmem
      · exact hsame.symm
      · exact hlatest hmem
    exact ⟨row, now, hlookup, hrow⟩

/-- An observation that is not stored. -/
lemma Arrived.skip {start : UsageDb} {done : List (CapacityDraft digit)}
    (h : Arrived o start done s) (hd : d = o.latest → o.latest ∈ done) :
    Arrived o start (d :: done) s where
  known := h.known
  others := h.others
  row r hr := by
    obtain ⟨d', hd', hrow⟩ := h.row r hr
    exact ⟨d', List.mem_cons_of_mem d hd', hrow⟩
  latest hmem := by
    rcases List.mem_cons.1 hmem with hsame | hmem
    · exact h.latest (hd hsame.symm)
    · exact h.latest hmem

/-- Storing an observation of the account, if its numbers fit. -/
lemma Arrived.commit_store {start : UsageDb} {done : List (CapacityDraft digit)}
    (h : Arrived o start done s) (hstorable : Storable o.latest)
    (hown : ∀ d ∈ o.drafts, Own d start) (hd : d ∈ o.drafts)
    (hlatest : o.latest ∈ done → d = o.latest) :
    Arrived o start (d :: done) ((storeCapacity d now).commit s) := by
  by_cases hfits : ∃ row, capacityRow d now = some row
  · obtain ⟨row, hrow⟩ := hfits
    obtain ⟨haccount, hproject, hid, -⟩ := row_of_capacityRow hrow
    have hput := @putCapacity_of_own row s fun r hr hne hr' => by
      rw [hid]
      refine hown d hd r (h.others r hr ?_) (hr'.trans hproject)
      rw [← o.account d hd, ← haccount]
      exact hne
    rw [Tx.commit_of_ok (storeCapacity_ok.2 ⟨row, hrow, hput, rfl⟩)]
    exact h.store hd hlatest hrow
  · have hsame : (storeCapacity d now).commit s = s := by
      rcases Tx.commit_cases (storeCapacity d now) s with hsame | ⟨record, hok⟩
      · exact hsame
      · obtain ⟨row, hrow, -⟩ := storeCapacity_ok.1 hok
        exact absurd ⟨row, hrow⟩ hfits
    rw [hsame]
    refine h.skip ?_
    rintro rfl
    exact absurd (exists_capacityRow_iff.2 hstorable) hfits

/-- One arrival. -/
lemma Arrived.step {start : UsageDb} {done : List (CapacityDraft digit)}
    (h : Arrived o start done s) (hstorable : Storable o.latest)
    (hown : ∀ d ∈ o.drafts, Own d start) (hdone : ∀ d ∈ done, d ∈ o.drafts) (hd : d ∈ o.drafts)
    (hnew : d ∉ done) : Arrived o start (d :: done) (arrive s (d, now)) := by
  have hknown : Known d s := by
    have hproject : d.projectId = o.latest.projectId := (Prod.mk.inj (o.account d hd)).1
    unfold Known
    rw [hproject]
    exact h.known
  unfold arrive
  cases hlookup : s.capacities.lookup d.account with
  | none =>
    have hcommit : (recordCapacity d now).commit s = (storeCapacity d now).commit s := by
      rw [Tx.commit, record_none hknown hlookup]
      rfl
    rw [hcommit]
    refine h.commit_store hstorable hown hd fun hmem => ?_
    obtain ⟨r, _, hr, -⟩ := h.latest hmem
    rw [o.account d hd, hr] at hlookup
    cases hlookup
  | some current =>
    obtain ⟨d', hd', now', hrow⟩ := h.row current (by rw [← o.account d hd]; exact hlookup)
    obtain ⟨-, -, hid, htime⟩ := row_of_capacityRow hrow
    have hne : current.observationId ≠ d.observationId := by
      intro hsame
      rw [hid] at hsame
      have hdd : d' = d := List.inj_on_of_nodup_map o.ids (hdone d' hd') hd hsame
      exact hnew (hdd ▸ hd')
    have hrecord : recordCapacity d now s = if d.observedAt ≤ current.observedAt
        then .ok (capacityRecord current, s) else storeCapacity d now s :=
      record_other hknown hlookup hne
    by_cases holder : d.observedAt ≤ current.observedAt
    · rw [if_pos holder] at hrecord
      rw [Tx.commit_of_ok hrecord]
      refine h.skip ?_
      rintro rfl
      -- the latest observation is not older than another one
      have hsame : d'.observedAt = o.latest.observedAt :=
        le_antisymm (o.le_latest d' (hdone d' hd')) (htime ▸ holder)
      have hdd : d' = o.latest := List.inj_on_of_nodup_map o.times (hdone d' hd') hd hsame
      exact hdd ▸ hd'
    · rw [if_neg holder] at hrecord
      have hcommit : (recordCapacity d now).commit s = (storeCapacity d now).commit s := by
        rw [Tx.commit, hrecord]
        rfl
      rw [hcommit]
      refine h.commit_store hstorable hown hd fun hmem => ?_
      obtain ⟨r, t, hr, hlatest⟩ := h.latest hmem
      rw [← o.account d hd, hlookup] at hr
      obtain rfl := Option.some.inj hr
      obtain ⟨-, -, -, htime'⟩ := row_of_capacityRow hlatest
      rw [htime'] at holder
      exact absurd (o.le_latest d hd) holder

/-- All arrivals. -/
lemma Arrived.run {start : UsageDb} (hstorable : Storable o.latest)
    (hown : ∀ d ∈ o.drafts, Own d start) {arrivals : List (CapacityDraft digit × Time)} :
    ∀ {done : List (CapacityDraft digit)} {s : UsageDb}, Arrived o start done s →
      (∀ d ∈ done, d ∈ o.drafts) → (∀ d ∈ arrivals.map Prod.fst, d ∈ o.drafts) →
        (done ++ arrivals.map Prod.fst).Nodup →
          Arrived o start ((arrivals.map Prod.fst).reverse ++ done) (run arrive s arrivals) := by
  induction arrivals with
  | nil => exact fun h _ _ _ => h
  | cons arrival arrivals ih =>
    intro done s h hdone hdrafts hnodup
    rw [List.map_cons] at hdrafts hnodup
    have hd : arrival.1 ∈ o.drafts := hdrafts _ List.mem_cons_self
    have hnew : arrival.1 ∉ done := fun hmem =>
      (List.nodup_append.1 hnodup).2.2 _ hmem _ List.mem_cons_self rfl
    have harrived : Arrived o start (arrival.1 :: done) (arrive s arrival) :=
      h.step hstorable hown hdone hd hnew
    have hstep := ih harrived
      (List.forall_mem_cons.2 ⟨hd, hdone⟩) (fun d hd => hdrafts d (List.mem_cons_of_mem _ hd))
      (List.perm_middle.nodup_iff.1 hnodup)
    rw [run_cons, List.map_cons, List.reverse_cons, List.append_assoc]
    exact hstep

lemma lastObservationWins_iff (o : Observations digit) :
    LastObservationWins o ↔ Storable o.latest := by
  constructor
  · intro h
    let start : UsageDb := { db := { projects := ⟨[⟨o.latest.projectId, "active"⟩], by simp⟩ } }
    obtain ⟨row, now, -, hrow⟩ := h start (o.drafts.map fun d => (d, 0))
      (by simp [Known, start, Table.lookup, Table.find, Project.key]) rfl
      (fun d _ r hr => absurd hr (Table.notMem_empty r))
      (by simp [Function.comp_def])
    exact exists_capacityRow_iff.1 ⟨row, hrow⟩
  · intro hstorable s arrivals hknown hnone hown hperm
    have hstart : Arrived o s [] s := by
      refine ⟨hknown, fun r hr _ => hr, fun r hr => ?_, fun hmem => absurd hmem List.not_mem_nil⟩
      rw [hnone] at hr
      cases hr
    have hmem : ∀ d ∈ arrivals.map Prod.fst, d ∈ o.drafts := fun d hd => hperm.mem_iff.1 hd
    have hnodup : (arrivals.map Prod.fst).Nodup := hperm.nodup_iff.2 o.ids.of_map
    have hrun := Arrived.run hstorable hown hstart (fun d hd => absurd hd List.not_mem_nil) hmem
      (by simpa using hnodup)
    refine hrun.latest ?_
    rw [List.append_nil, List.mem_reverse]
    exact hperm.mem_iff.2 o.latest_mem

/-- Recording an observation twice returns the stored record exactly if its numbers fit and its
amounts are canonical, and the latest of several observations is kept in every order exactly if
its numbers fit. -/
theorem record_capacity_iff (d : CapacityDraft digit) (o : Observations digit) :
    (Idempotent d ↔ Storable d ∧ Exact d) ∧ (LastObservationWins o ↔ Storable o.latest) :=
  ⟨idempotent_iff d, lastObservationWins_iff o⟩

end Record

/-! ## An amount in scientific notation -/

/-- Credits of a thousand, with an exponent. -/
def thousandCredits : CapacityDraft fun _ => none where
  projectId := "alpha"
  providerId := "codex-local"
  accountScope := "default"
  observationId := "capacity-1"
  observedAt := 1
  capacity := { available := true, credits := some ⟨some "1e3", true, false⟩ }
  project_id := by decide
  provider_id := by decide
  account_scope := by decide
  observation_id := by decide
  valid := by decide

/-- The second recording of these credits is a conflict. -/
theorem not_idempotent :
    ¬ ∀ (digit : Char → Option (Fin 10)) (d : CapacityDraft digit), Idempotent d := by
  intro h
  obtain ⟨-, hexact⟩ := (idempotent_iff thousandCredits).1 (h _ thousandCredits)
  obtain ⟨d, hread, -, -, hexponent, -⟩ := hexact.canonical "1e3" (by decide)
  have hthousand : readDecimal (fun _ => none) "1e3" = some ⟨false, 1, 3⟩ := by decide
  obtain rfl := Option.some.inj (hthousand.symm.trans hread)
  exact absurd hexponent (by decide)

end AgenticMesh.UsageStore
