import OpenRisk.Agreement.Validate
import OpenRisk.Guard.JsonScanner
import OpenRisk.Js.PropertyOrder
import OpenRisk.Json.Fuel
import OpenRisk.Sdk.Content

/-!
# JSON ingress of the wallet guard

Model of `parseWalletGuardBoundedJsonData` and `cloneParsed` of
`applications/blockchain-digital-assets/wallet-guard/json-ingress.mjs`. The text is scanned,
read by `JSON.parse` and copied value by value.

Results:
* `cloneParsed_eq_ok`: a parsed value within the bounds is copied as it is.
* `parseWalletGuardBoundedJsonData_language`: the texts that are accepted, and the value that
  is returned for each.
-/

namespace OpenRisk.Guard.JsonIngress

open Text Sdk

/-! ## The copy -/

/-- The start of `cloneParsed(value, depth, budget)`: the budget that is left. -/
def enterParsed (depth remaining : ℕ) : Except IngressFailure ℕ :=
  if MAX_DEPTH < depth ∨ remaining = 0 then boundsFail "parsed JSON exceeds reference bounds"
  else .ok (remaining - 1)

/-- The checks of `cloneParsed` on a string. -/
def cloneString (s : JsString) : Except IngressFailure JsString :=
  if MAX_STRING_LENGTH < s.length then boundsFail "parsed JSON string exceeds the maximum length"
  else assertUnicodeScalarString s "parsed JSON string"

/-- The checks of `cloneParsed` on a number. -/
def cloneNumber (x : JsNumber) : Except IngressFailure JsNumber :=
  if x.isSafeInteger = false ∨ x = .negativeZero then
    ingressFail "POMRX_WG_JSON_E_NUMBER"
      (js "Wallet Guard JSON numbers must be canonical safe integers")
  else .ok x

/-- The checks of `cloneParsed` on a key. -/
def cloneKey (key : JsString) : Except IngressFailure JsString := do
  let key ← assertUnicodeScalarString key "parsed JSON key"
  if key.length = 0 ∨ MAX_KEY_LENGTH < key.length ∨ key ∈ FORBIDDEN_KEYS then
    ingressFail "POMRX_WG_JSON_E_UNSAFE_KEY" (js "parsed JSON contains an unsafe object key")
  else .ok key

mutual

/-- `cloneParsed(value, depth, budget)`: the copy and the budget that is left. -/
def cloneParsed (depth remaining : ℕ) : JsValue → Except IngressFailure (JsValue × ℕ)
  | .null => do
    let remaining ← enterParsed depth remaining
    .ok (.null, remaining)
  | .bool b => do
    let remaining ← enterParsed depth remaining
    .ok (.bool b, remaining)
  | .string s => do
    let remaining ← enterParsed depth remaining
    let s ← cloneString s
    .ok (.string s, remaining)
  | .number x => do
    let remaining ← enterParsed depth remaining
    let x ← cloneNumber x
    .ok (.number x, remaining)
  | .array xs => do
    let remaining ← enterParsed depth remaining
    let (output, remaining) ← cloneItems (depth + 1) remaining xs
    .ok (.array output, remaining)
  | .object es => do
    let remaining ← enterParsed depth remaining
    let (output, remaining) ← cloneEntries (depth + 1) remaining es
    -- the properties of `output` are created one after another
    .ok (.object (ownProperties output), remaining)

def cloneItems (depth remaining : ℕ) : List JsValue → Except IngressFailure (List JsValue × ℕ)
  | [] => .ok ([], remaining)
  | x :: xs => do
    let (x, remaining) ← cloneParsed depth remaining x
    let (xs, remaining) ← cloneItems depth remaining xs
    .ok (x :: xs, remaining)

def cloneEntries (depth remaining : ℕ) :
    List (JsString × JsValue) → Except IngressFailure (List (JsString × JsValue) × ℕ)
  | [] => .ok ([], remaining)
  | (key, entry) :: es => do
    let key ← cloneKey key
    let (entry, remaining) ← cloneParsed depth remaining entry
    let (es, remaining) ← cloneEntries depth remaining es
    .ok ((key, entry) :: es, remaining)

end

/-- `parseWalletGuardBoundedJsonData(raw)` for a string. -/
def parseWalletGuardBoundedJsonData (raw : JsString) : Except IngressFailure JsValue :=
  if byteLength raw < 2 ∨ MAX_RAW_BYTES < byteLength raw then
    boundsFail "Wallet Guard JSON ingress exceeds the byte bounds"
  else if raw.head? = some 0xFEFF then
    syntaxFail "Wallet Guard JSON ingress does not accept a leading BOM"
  else do
    scan (Json.textFuel raw) raw
    match jsonParse raw with
    | none => syntaxFail "Wallet Guard JSON ingress is not valid JSON"
    | some parsed => do
      let (value, _) ← cloneParsed 0 MAX_NODES parsed
      .ok value

/-! ## What the copy accepts -/

theorem ingressFail_ne_ok {α : Type} {code : String} {message : JsString} {a : α} :
    ingressFail code message ≠ .ok a := by
  simp [ingressFail]

theorem enterParsed_eq_ok {depth remaining r : ℕ} :
    enterParsed depth remaining = .ok r ↔ depth ≤ MAX_DEPTH ∧ r + 1 = remaining := by
  unfold enterParsed
  split_ifs with h
  · refine iff_of_false ingressFail_ne_ok ?_
    omega
  · rw [Except.ok.injEq]
    omega

theorem cloneString_eq_ok {s t : JsString} : cloneString s = .ok t ↔ BoundedString s ∧ t = s := by
  unfold cloneString BoundedString
  split_ifs with h
  · refine iff_of_false ingressFail_ne_ok ?_
    omega
  · rw [assertUnicodeScalarString_eq_ok]
    have hle : s.length ≤ MAX_STRING_LENGTH := by omega
    tauto

theorem cloneNumber_eq_ok {x y : JsNumber} :
    cloneNumber x = .ok y ↔ (x.isSafeInteger = true ∧ x ≠ .negativeZero) ∧ y = x := by
  unfold cloneNumber
  split_ifs with h
  · refine iff_of_false ingressFail_ne_ok ?_
    rcases h with h | h <;> simp [h]
  · rw [not_or, Bool.not_eq_false] at h
    rw [Except.ok.injEq, and_iff_right h, eq_comm]

theorem cloneKey_eq_ok {k l : JsString} : cloneKey k = .ok l ↔ SafeName k ∧ l = k := by
  unfold cloneKey SafeName
  simp only [bind_eq_ok, assertUnicodeScalarString_eq_ok]
  constructor
  · rintro ⟨a, ⟨hscalar, rfl⟩, h⟩
    split_ifs at h with hkey
    · cases h
    · cases h
      rw [not_or, not_or] at hkey
      exact ⟨⟨by omega, by omega, hkey.2.2, hscalar⟩, rfl⟩
  · rintro ⟨⟨hpos, hmax, hallowed, hscalar⟩, rfl⟩
    refine ⟨l, ⟨hscalar, rfl⟩, if_neg ?_⟩
    rintro (h | h | h)
    · omega
    · omega
    · exact hallowed h

/-- A number that is a safe integer other than `-0`. -/
def CanonicalNumber (x : JsNumber) : Prop := x.isSafeInteger = true ∧ x ≠ .negativeZero

mutual

/-- Strings, numbers and keys pass the checks made on them alone. -/
def Copyable : JsValue → Prop
  | .string s => BoundedString s
  | .number x => CanonicalNumber x
  | .array xs => CopyableItems xs
  | .object es => CopyableEntries es
  | _ => True

def CopyableItems : List JsValue → Prop
  | [] => True
  | x :: xs => Copyable x ∧ CopyableItems xs

def CopyableEntries : List (JsString × JsValue) → Prop
  | [] => True
  | (key, x) :: es => SafeName key ∧ Copyable x ∧ CopyableEntries es

end

theorem copyableItems_iff {xs : List JsValue} : CopyableItems xs ↔ ∀ x ∈ xs, Copyable x := by
  induction xs with
  | nil => simp [CopyableItems]
  | cons x xs ih => simp [CopyableItems, ih]

theorem copyableEntries_iff {es : List (JsString × JsValue)} :
    CopyableEntries es ↔ ∀ e ∈ es, SafeName e.1 ∧ Copyable e.2 := by
  induction es with
  | nil => simp [CopyableEntries]
  | cons e es ih => simp [CopyableEntries, ih, and_assoc]

mutual

/-- The properties of every object are distinct and in property order. -/
def InOrder : JsValue → Prop
  | .array xs => InOrderItems xs
  | .object es => (Ordered es ∧ (es.map Prod.fst).Nodup) ∧ InOrderEntries es
  | _ => True

def InOrderItems : List JsValue → Prop
  | [] => True
  | x :: xs => InOrder x ∧ InOrderItems xs

def InOrderEntries : List (JsString × JsValue) → Prop
  | [] => True
  | (_, x) :: es => InOrder x ∧ InOrderEntries es

end

theorem inOrderItems_iff {xs : List JsValue} : InOrderItems xs ↔ ∀ x ∈ xs, InOrder x := by
  induction xs with
  | nil => simp [InOrderItems]
  | cons x xs ih => simp [InOrderItems, ih]

theorem inOrderEntries_iff {es : List (JsString × JsValue)} :
    InOrderEntries es ↔ ∀ e ∈ es, InOrder e.2 := by
  induction es with
  | nil => simp [InOrderEntries]
  | cons e es ih => simp [InOrderEntries, ih]

mutual

/-- What `cloneParsed` accepts: the copy is the value, and each value takes one of the budget. -/
theorem cloneParsed_eq_ok (depth remaining r : ℕ) (v w : JsValue) (hv : InOrder v) :
    cloneParsed depth remaining v = .ok (w, r) ↔
      depth + height v ≤ MAX_DEPTH ∧ Copyable v ∧ r + nodeCount v = remaining ∧ w = v := by
  match v with
  | .null =>
    simp only [cloneParsed, bind_eq_ok, enterParsed_eq_ok, height, Copyable, nodeCount,
      Except.ok.injEq, Prod.mk.injEq, Nat.add_zero, true_and]
    constructor
    · rintro ⟨a, ⟨h1, h2⟩, rfl, rfl⟩; exact ⟨h1, h2, rfl⟩
    · rintro ⟨h1, h2, rfl⟩; exact ⟨r, ⟨h1, h2⟩, rfl, rfl⟩
  | .bool b =>
    simp only [cloneParsed, bind_eq_ok, enterParsed_eq_ok, height, Copyable, nodeCount,
      Except.ok.injEq, Prod.mk.injEq, Nat.add_zero, true_and]
    constructor
    · rintro ⟨a, ⟨h1, h2⟩, rfl, rfl⟩; exact ⟨h1, h2, rfl⟩
    · rintro ⟨h1, h2, rfl⟩; exact ⟨r, ⟨h1, h2⟩, rfl, rfl⟩
  | .string s =>
    simp only [cloneParsed, bind_eq_ok, enterParsed_eq_ok, cloneString_eq_ok, height, Copyable,
      nodeCount, Except.ok.injEq, Prod.mk.injEq, Nat.add_zero]
    constructor
    · rintro ⟨a, ⟨h1, h2⟩, t, ⟨h3, rfl⟩, rfl, rfl⟩; exact ⟨h1, h3, h2, rfl⟩
    · rintro ⟨h1, h2, h3, rfl⟩; exact ⟨r, ⟨h1, h3⟩, s, ⟨h2, rfl⟩, rfl, rfl⟩
  | .number x =>
    simp only [cloneParsed, bind_eq_ok, enterParsed_eq_ok, cloneNumber_eq_ok, height, Copyable,
      CanonicalNumber, nodeCount, Except.ok.injEq, Prod.mk.injEq, Nat.add_zero]
    constructor
    · rintro ⟨a, ⟨h1, h2⟩, t, ⟨h3, rfl⟩, rfl, rfl⟩; exact ⟨h1, h3, h2, rfl⟩
    · rintro ⟨h1, h2, h3, rfl⟩; exact ⟨r, ⟨h1, h3⟩, x, ⟨h2, rfl⟩, rfl, rfl⟩
  | .array xs =>
    rw [InOrder] at hv
    simp only [cloneParsed, bind_eq_ok, enterParsed_eq_ok, Prod.exists,
      cloneItems_eq_ok _ _ _ _ _ hv, height, Copyable, nodeCount, Except.ok.injEq, Prod.mk.injEq]
    constructor
    · rintro ⟨a, ⟨h1, h2⟩, ys, b, ⟨h3, h4, h5, rfl⟩, rfl, rfl⟩
      exact ⟨by omega, h4, by omega, rfl⟩
    · rintro ⟨h1, h2, h3, rfl⟩
      exact ⟨_, ⟨by omega, by omega⟩, xs, r, ⟨by omega, h2, rfl, rfl⟩, rfl, rfl⟩
  | .object es =>
    rw [InOrder] at hv
    have hown := ownProperties_of_ordered hv.1.1 hv.1.2
    simp only [cloneParsed, bind_eq_ok, enterParsed_eq_ok, Prod.exists,
      cloneEntries_eq_ok _ _ _ _ _ hv.2, height, Copyable, nodeCount, Except.ok.injEq, Prod.mk.injEq]
    constructor
    · rintro ⟨a, ⟨h1, h2⟩, fs, b, ⟨h3, h4, h5, rfl⟩, rfl, rfl⟩
      exact ⟨by omega, h4, by omega, by rw [hown]⟩
    · rintro ⟨h1, h2, h3, rfl⟩
      exact ⟨_, ⟨by omega, by omega⟩, es, r, ⟨by omega, h2, rfl, rfl⟩, by rw [hown], rfl⟩

theorem cloneItems_eq_ok (depth remaining r : ℕ) (xs ys : List JsValue) (hx : InOrderItems xs) :
    cloneItems (depth + 1) remaining xs = .ok (ys, r) ↔
      (0 < heightItems xs → depth + heightItems xs ≤ MAX_DEPTH) ∧ CopyableItems xs ∧
        r + nodeCountItems xs = remaining ∧ ys = xs := by
  match xs with
  | [] =>
    simp only [cloneItems, heightItems, CopyableItems, nodeCountItems, Except.ok.injEq,
      Prod.mk.injEq, Nat.lt_irrefl, false_implies, true_and, Nat.add_zero]
    tauto
  | x :: xs =>
    rw [InOrderItems] at hx
    simp only [cloneItems, bind_eq_ok, Prod.exists, cloneParsed_eq_ok _ _ _ _ _ hx.1,
      cloneItems_eq_ok _ _ _ _ _ hx.2, heightItems, CopyableItems, nodeCountItems, Except.ok.injEq,
      Prod.mk.injEq]
    constructor
    · rintro ⟨_, a, ⟨h1, h2, h3, rfl⟩, _, b, ⟨h4, h5, h6, rfl⟩, rfl, rfl⟩
      exact ⟨by omega, ⟨h2, h5⟩, by omega, rfl⟩
    · rintro ⟨h1, ⟨h2, h3⟩, h4, rfl⟩
      exact ⟨x, _, ⟨by omega, h2, by omega, rfl⟩, xs, r, ⟨by omega, h3, rfl, rfl⟩, rfl, rfl⟩

theorem cloneEntries_eq_ok (depth remaining r : ℕ) (es fs : List (JsString × JsValue))
    (he : InOrderEntries es) :
    cloneEntries (depth + 1) remaining es = .ok (fs, r) ↔
      (0 < heightEntries es → depth + heightEntries es ≤ MAX_DEPTH) ∧ CopyableEntries es ∧
        r + nodeCountEntries es = remaining ∧ fs = es := by
  match es with
  | [] =>
    simp only [cloneEntries, heightEntries, CopyableEntries, nodeCountEntries, Except.ok.injEq,
      Prod.mk.injEq, Nat.lt_irrefl, false_implies, true_and, Nat.add_zero]
    tauto
  | (key, x) :: es =>
    rw [InOrderEntries] at he
    simp only [cloneEntries, bind_eq_ok, Prod.exists, cloneKey_eq_ok,
      cloneParsed_eq_ok _ _ _ _ _ he.1, cloneEntries_eq_ok _ _ _ _ _ he.2, heightEntries,
      CopyableEntries, nodeCountEntries, Except.ok.injEq, Prod.mk.injEq]
    constructor
    · rintro ⟨_, ⟨h0, rfl⟩, _, a, ⟨h1, h2, h3, rfl⟩, _, b, ⟨h4, h5, h6, rfl⟩, rfl, rfl⟩
      exact ⟨by omega, ⟨h0, h2, h5⟩, by omega, rfl⟩
    · rintro ⟨h1, ⟨h0, h2, h3⟩, h4, rfl⟩
      exact ⟨key, ⟨h0, rfl⟩, x, _, ⟨by omega, h2, by omega, rfl⟩, es, r,
        ⟨by omega, h3, rfl, rfl⟩, rfl, rfl⟩

end

/-! ## The value of a text -/

theorem height_toJs {j : Json} (hj : j.UniqueNames) : height j.toJs = levels j := by
  induction j using Json.induct with
  | null | bool _ | number _ | string _ => rfl
  | array xs ih =>
    rw [Json.UniqueNames, Json.uniqueNamesElements_iff] at hj
    rw [Json.toJs, height, levels, elementsToJs_eq]
    induction xs with
    | nil => rfl
    | cons x xs ihxs =>
      have hhead := ih x List.mem_cons_self (hj x List.mem_cons_self)
      have htail := ihxs (fun y hy => ih y (List.mem_cons_of_mem _ hy))
        (fun y hy => hj y (List.mem_cons_of_mem _ hy))
      rw [List.map_cons, heightItems, levelsElements, hhead, htail]
  | object ms ih =>
    rw [Json.UniqueNames, Json.uniqueNamesMembers_iff] at hj
    rw [Agreement.height_toJs_object hj.1, levels, membersToJs_eq]
    have hunique := hj.2
    clear hj
    induction ms with
    | nil => rfl
    | cons m ms ihms =>
      have hhead := ih m List.mem_cons_self (hunique m List.mem_cons_self)
      have htail := ihms (fun y hy => ih y (List.mem_cons_of_mem _ hy))
        (fun y hy => hunique y (List.mem_cons_of_mem _ hy))
      rw [List.map_cons, heightEntries, levelsMembers, hhead, htail]

theorem nodeCount_toJs {j : Json} (hj : j.UniqueNames) : nodeCount j.toJs = values j := by
  induction j using Json.induct with
  | null | bool _ | number _ | string _ => rfl
  | array xs ih =>
    rw [Json.UniqueNames, Json.uniqueNamesElements_iff] at hj
    rw [Json.toJs, nodeCount, values, elementsToJs_eq, Nat.add_right_cancel_iff]
    induction xs with
    | nil => rfl
    | cons x xs ihxs =>
      have hhead := ih x List.mem_cons_self (hj x List.mem_cons_self)
      have htail := ihxs (fun y hy => ih y (List.mem_cons_of_mem _ hy))
        (fun y hy => hj y (List.mem_cons_of_mem _ hy))
      rw [List.map_cons, nodeCountItems, valuesElements, hhead, htail]
  | object ms ih =>
    rw [Json.UniqueNames, Json.uniqueNamesMembers_iff] at hj
    rw [Agreement.nodeCount_toJs_object hj.1, values, membersToJs_eq, Nat.add_right_cancel_iff]
    have hunique := hj.2
    clear hj
    induction ms with
    | nil => rfl
    | cons m ms ihms =>
      have hhead := ih m List.mem_cons_self (hunique m List.mem_cons_self)
      have htail := ihms (fun y hy => ih y (List.mem_cons_of_mem _ hy))
        (fun y hy => hunique y (List.mem_cons_of_mem _ hy))
      rw [List.map_cons, nodeCountEntries, valuesMembers, hhead, htail]

/-- The objects that `JSON.parse` builds are in property order. -/
theorem inOrder_toJs (j : Json) : InOrder j.toJs := by
  induction j using Json.induct with
  | null | bool _ | number _ | string _ => simp [Json.toJs, InOrder]
  | array xs ih =>
    rw [Json.toJs, InOrder, inOrderItems_iff, elementsToJs_eq, List.forall_mem_map]
    exact ih
  | object ms ih =>
    rw [Json.toJs, InOrder, inOrderEntries_iff]
    obtain ⟨hnodup, hmem⟩ := ownProperties_spec (membersToJs ms)
    refine ⟨⟨ordered_ownProperties _, hnodup⟩, fun e he => ?_⟩
    have he := hmem e he
    rw [membersToJs_eq] at he
    obtain ⟨m, hm, rfl⟩ := List.mem_map.mp he
    exact ih m hm

/-- An integer token other than `-0` is read as a canonical number when it is in the safe
    range. -/
theorem canonicalNumber_iff {t : NumberToken} (ht : CanonicalInteger t) :
    CanonicalNumber (JsNumber.numberOfToken t) ↔ t.integer ≤ JsNumber.maxSafeInteger := by
  rw [CanonicalNumber, JsNumber.numberOfToken_isSafeInteger ht.1, and_iff_left_iff_imp]
  intro hle hzero
  have hint := JsNumber.numberOfToken_safe ht.1 hle
  rw [hzero, JsNumber.tokenInt] at hint
  have hlt : t.integer < 2 ^ 53 := by unfold JsNumber.maxSafeInteger at hle; omega
  rw [JsNumber.numberOfToken, JsNumber.tokenMagnitude_integer ht.1,
    JsNumber.roundBinary64_of_lt _ hlt] at hzero
  have hsign := ht.2
  split_ifs at hzero with h0 hneg
  exact hsign ⟨hneg, h0⟩

/-- The bound on the numbers of a text. -/
def SafeRange (j : Json) : Prop := j.Numbers fun t => t.integer ≤ JsNumber.maxSafeInteger

theorem copyable_toJs {j : Json} (hj : Strict j) : Copyable j.toJs ↔ SafeRange j := by
  unfold SafeRange Json.Numbers
  induction j using Json.induct with
  | null | bool _ => simp [Json.toJs, Copyable, Json.All]
  | number t => exact canonicalNumber_iff hj.2
  | string s => exact iff_of_true hj.2 trivial
  | array xs ih =>
    rw [strict_array] at hj
    rw [Json.toJs, Copyable, copyableItems_iff, elementsToJs_eq, List.forall_mem_map, Json.All,
      Json.allElements_iff]
    exact forall₂_congr fun x hx => ih x hx (hj x hx)
  | object ms ih =>
    rw [strict_object] at hj
    rw [Json.toJs, Copyable, copyableEntries_iff, Json.All, Json.allMembers_iff]
    simp only [(Agreement.ownProperties_membersToJs_perm hj.1).mem_iff]
    rw [membersToJs_eq, List.forall_mem_map]
    refine forall₂_congr fun m hm => ?_
    rw [ih m hm (hj.2 m hm).2]
    exact and_congr_left fun _ => iff_of_true (hj.2 m hm).1 trivial

/-! ## The end of the copy -/

theorem enterParsed_ne_outOfFuel (depth remaining : ℕ) :
    enterParsed depth remaining ≠ .error .outOfFuel := by
  unfold enterParsed boundsFail ingressFail
  split_ifs <;> simp

theorem assertUnicodeScalarString_ne_outOfFuel (value : JsString) (label : String) :
    assertUnicodeScalarString value label ≠ .error .outOfFuel := by
  unfold assertUnicodeScalarString ingressFail
  cases unpairedSurrogate value <;> simp

theorem cloneString_ne_outOfFuel (s : JsString) : cloneString s ≠ .error .outOfFuel := by
  unfold cloneString boundsFail ingressFail
  split_ifs
  · simp
  · exact assertUnicodeScalarString_ne_outOfFuel s _

theorem cloneNumber_ne_outOfFuel (x : JsNumber) : cloneNumber x ≠ .error .outOfFuel := by
  unfold cloneNumber ingressFail
  split_ifs <;> simp

theorem cloneKey_ne_outOfFuel (key : JsString) : cloneKey key ≠ .error .outOfFuel := by
  intro h
  rcases bind_eq_outOfFuel h with h | ⟨k, -, h⟩
  · exact assertUnicodeScalarString_ne_outOfFuel _ _ h
  · split_ifs at h
    cases h

mutual

theorem cloneParsed_ne_outOfFuel (depth remaining : ℕ) (v : JsValue) :
    cloneParsed depth remaining v ≠ .error .outOfFuel := by
  intro h
  match v with
  | .null | .bool b =>
    rcases bind_eq_outOfFuel h with h | ⟨r, -, h⟩
    · exact enterParsed_ne_outOfFuel _ _ h
    · cases h
  | .string s =>
    rcases bind_eq_outOfFuel h with h | ⟨r, -, h⟩
    · exact enterParsed_ne_outOfFuel _ _ h
    rcases bind_eq_outOfFuel h with h | ⟨t, -, h⟩
    · exact cloneString_ne_outOfFuel _ h
    · cases h
  | .number x =>
    rcases bind_eq_outOfFuel h with h | ⟨r, -, h⟩
    · exact enterParsed_ne_outOfFuel _ _ h
    rcases bind_eq_outOfFuel h with h | ⟨y, -, h⟩
    · exact cloneNumber_ne_outOfFuel _ h
    · cases h
  | .array xs =>
    rcases bind_eq_outOfFuel h with h | ⟨r, -, h⟩
    · exact enterParsed_ne_outOfFuel _ _ h
    rcases bind_eq_outOfFuel h with h | ⟨ys, -, h⟩
    · exact cloneItems_ne_outOfFuel _ _ _ h
    · cases h
  | .object es =>
    rcases bind_eq_outOfFuel h with h | ⟨r, -, h⟩
    · exact enterParsed_ne_outOfFuel _ _ h
    rcases bind_eq_outOfFuel h with h | ⟨fs, -, h⟩
    · exact cloneEntries_ne_outOfFuel _ _ _ h
    · cases h

theorem cloneItems_ne_outOfFuel (depth remaining : ℕ) (xs : List JsValue) :
    cloneItems depth remaining xs ≠ .error .outOfFuel := by
  intro h
  match xs with
  | [] => cases h
  | x :: xs =>
    rcases bind_eq_outOfFuel h with h | ⟨y, -, h⟩
    · exact cloneParsed_ne_outOfFuel _ _ _ h
    rcases bind_eq_outOfFuel h with h | ⟨ys, -, h⟩
    · exact cloneItems_ne_outOfFuel _ _ _ h
    · cases h

theorem cloneEntries_ne_outOfFuel (depth remaining : ℕ) (es : List (JsString × JsValue)) :
    cloneEntries depth remaining es ≠ .error .outOfFuel := by
  intro h
  match es with
  | [] => cases h
  | (key, x) :: es =>
    rcases bind_eq_outOfFuel h with h | ⟨k, -, h⟩
    · exact cloneKey_ne_outOfFuel _ h
    rcases bind_eq_outOfFuel h with h | ⟨y, -, h⟩
    · exact cloneParsed_ne_outOfFuel _ _ _ h
    rcases bind_eq_outOfFuel h with h | ⟨fs, -, h⟩
    · exact cloneEntries_ne_outOfFuel _ _ _ h
    · cases h

end

theorem parseWalletGuardBoundedJsonData_ne_outOfFuel (raw : JsString) :
    parseWalletGuardBoundedJsonData raw ≠ .error .outOfFuel := by
  unfold parseWalletGuardBoundedJsonData
  intro h
  split_ifs at h
  · cases h
  · cases h
  · rcases bind_eq_outOfFuel h with h | ⟨u, -, h⟩
    · exact scan_ne_outOfFuel raw h
    cases hparsed : jsonParse raw with
    | none =>
      rw [hparsed] at h
      cases h
    | some parsed =>
      rw [hparsed] at h
      rcases bind_eq_outOfFuel h with h | ⟨w, -, h⟩
      · exact cloneParsed_ne_outOfFuel _ _ _ h
      · cases h

/-! ## The accepted texts -/

/-- The language of the ingress: what a text must satisfy to be accepted. -/
structure IngressText (raw : JsString) (j : Json) : Prop where
  bytes : 2 ≤ byteLength raw ∧ byteLength raw ≤ MAX_RAW_BYTES
  noBom : raw.head? ≠ some 0xFEFF
  text : Json.Denotes raw j
  depth : levels j ≤ MAX_DEPTH
  count : values j ≤ MAX_NODES
  strict : Strict j
  range : SafeRange j

/-- A strict value within the bounds of the scanner is copied when its numbers are safe. -/
theorem cloneParsed_toJs {j : Json} (hstrict : Strict j) (hdepth : levels j ≤ MAX_DEPTH)
    (hcount : values j ≤ MAX_NODES) (v : JsValue) :
    (∃ r, cloneParsed 0 MAX_NODES j.toJs = .ok (v, r)) ↔ SafeRange j ∧ v = j.toJs := by
  simp only [cloneParsed_eq_ok _ _ _ _ _ (inOrder_toJs j), height_toJs hstrict.1,
    nodeCount_toJs hstrict.1, copyable_toJs hstrict]
  constructor
  · rintro ⟨r, -, hrange, -, hv⟩
    exact ⟨hrange, hv⟩
  · rintro ⟨hrange, hv⟩
    exact ⟨MAX_NODES - values j, by omega, hrange, by omega, hv⟩

theorem parseWalletGuardBoundedJsonData_eq_ok (raw : JsString) (v : JsValue) :
    parseWalletGuardBoundedJsonData raw = .ok v ↔ ∃ j, IngressText raw j ∧ v = j.toJs := by
  unfold parseWalletGuardBoundedJsonData
  split_ifs with hbytes hbom
  · refine iff_of_false ingressFail_ne_ok ?_
    rintro ⟨j, h, -⟩
    have := h.bytes
    omega
  · refine iff_of_false ingressFail_ne_ok ?_
    rintro ⟨j, h, -⟩
    exact h.noBom hbom
  · rw [bind_eq_ok]
    constructor
    · rintro ⟨u, hscan, h⟩
      obtain ⟨j, hparse, hstrict, hdepth, hcount⟩ := (scan_eq_ok raw).mp hscan
      rw [jsonParse, hparse, Option.map_some] at h
      obtain ⟨⟨w, r⟩, hclone, hw⟩ := bind_eq_ok.mp h
      cases hw
      obtain ⟨hrange, hv⟩ := (cloneParsed_toJs hstrict hdepth hcount v).mp ⟨r, hclone⟩
      exact ⟨j, ⟨by omega, hbom, Json.denotes_iff.mpr hparse, hdepth, hcount, hstrict, hrange⟩, hv⟩
    · rintro ⟨j, h, hv⟩
      have hparse := Json.denotes_iff.mp h.text
      obtain ⟨r, hclone⟩ := (cloneParsed_toJs h.strict h.depth h.count v).mpr ⟨h.range, hv⟩
      refine ⟨(), (scan_eq_ok raw).mpr ⟨j, hparse, h.strict, h.depth, h.count⟩, ?_⟩
      rw [jsonParse, hparse, Option.map_some]
      exact bind_eq_ok.mpr ⟨(v, r), hclone, rfl⟩

/-- A text is accepted exactly when it is in the language, the value returned is the one the
    text denotes, and every call ends with a value or with an error of the source. -/
theorem parseWalletGuardBoundedJsonData_language (raw : JsString) :
    ((∃ v, parseWalletGuardBoundedJsonData raw = .ok v) ↔ ∃ j, IngressText raw j) ∧
    (∀ v, parseWalletGuardBoundedJsonData raw = .ok v →
      ∃ j, Json.Denotes raw j ∧ v = j.toJs) ∧
    ((∃ v, parseWalletGuardBoundedJsonData raw = .ok v) ∨
      ∃ e, parseWalletGuardBoundedJsonData raw = .error (.error e)) := by
  refine ⟨?_, ?_, ?_⟩
  · constructor
    · rintro ⟨v, h⟩
      obtain ⟨j, hj, -⟩ := (parseWalletGuardBoundedJsonData_eq_ok raw v).mp h
      exact ⟨j, hj⟩
    · rintro ⟨j, hj⟩
      exact ⟨j.toJs, (parseWalletGuardBoundedJsonData_eq_ok raw _).mpr ⟨j, hj, rfl⟩⟩
  · intro v h
    obtain ⟨j, hj, hv⟩ := (parseWalletGuardBoundedJsonData_eq_ok raw v).mp h
    exact ⟨j, hj.text, hv⟩
  · cases h : parseWalletGuardBoundedJsonData raw with
    | ok v => exact .inl ⟨v, rfl⟩
    | error f =>
      cases f with
      | error e => exact .inr ⟨e, rfl⟩
      | outOfFuel => exact absurd h (parseWalletGuardBoundedJsonData_ne_outOfFuel raw)

end OpenRisk.Guard.JsonIngress
