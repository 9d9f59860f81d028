import OpenRisk.Json.Data
import OpenRisk.Json.Reader
import OpenRisk.Sdk.Content
import OpenRisk.Strict.Policy

/-!
# Exact JSON

What `parsePomRxV01ExactJson` of `sdk/typescript/internal/pom-rx-v01-policy-capability.mjs`
(lines 44–141) accepts. Its scanner looks for names that occur twice and is lenient otherwise;
`JSON.parse` decides what a JSON text is. On JSON texts both see the same strings and the same
nesting.

Results:
* `scan_iff`, `scanObjectKeys_iff`: on a JSON text the scanner refuses a name that occurs twice
  in an object, and nothing else.
* `wellFounded_calls`, `scan_of_need_le`: the scanner ends, and the fuel of a text is enough.
* `parsePomRxV01ExactJson_exact`: the reader returns the value of the exact JSON texts, and
  refuses everything else with the code of its caller.
-/

namespace OpenRisk.Strict

open Text Sdk PomRx

variable {code : DiagnosticCode} {label : JsString}

/-! ## Strings -/

theorem closeString_plain {u : UInt16} (hquote : u ≠ 0x22) (hback : u ≠ 0x5C) (s : JsString) :
    closeString (u :: s) = (closeString s).map fun p => (u :: p.1, p.2) := by
  rw [closeString.eq_def]
  dsimp only
  rw [if_neg hquote, if_neg hback]

theorem closeString_escape (u : UInt16) (s : JsString) :
    closeString (0x5C :: u :: s) = (closeString s).map fun p => (0x5C :: u :: p.1, p.2) := by
  rw [closeString.eq_def]
  rfl

theorem closeString_hex {u : UInt16} (h : (Json.hexValue u).isSome = true) (s : JsString) :
    closeString (u :: s) = (closeString s).map fun p => (u :: p.1, p.2) := by
  apply closeString_plain
  · rintro rfl
    exact absurd h (by decide)
  · rintro rfl
    exact absurd h (by decide)

theorem isSome_of_hex4 {a b c d w : UInt16} (h : Json.hex4 a b c d = some w) :
    (Json.hexValue a).isSome = true ∧ (Json.hexValue b).isSome = true ∧
      (Json.hexValue c).isSome = true ∧ (Json.hexValue d).isSome = true := by
  unfold Json.hex4 at h
  cases ha : Json.hexValue a <;> cases hb : Json.hexValue b <;> cases hc : Json.hexValue c <;>
    cases hd : Json.hexValue d <;> simp_all

/-- A string that `JSON.parse` reads is closed where it ends. -/
theorem closeString_of_scanString {t v r : JsString} (h : Json.scanString t = some (v, r)) :
    ∃ c, closeString t = some (c, r) ∧ t = c ++ r := by
  fun_induction Json.scanString t generalizing v with
  | case1 => cases h
  | case2 t =>
    cases h
    exact ⟨[0x22], by rw [closeString.eq_def]; rfl, rfl⟩
  | case3 => cases h
  | case4 a b c d t _ ih =>
    obtain ⟨w, hw, h⟩ := Option.bind_eq_some_iff.mp h
    obtain ⟨⟨v', r'⟩, hscan, heq⟩ := Option.map_eq_some_iff.mp h
    cases heq
    obtain ⟨used, hclose, rfl⟩ := ih hscan
    obtain ⟨ha, hb, hc, hd⟩ := isSome_of_hex4 hw
    refine ⟨0x5C :: 0x75 :: a :: b :: c :: d :: used, ?_, rfl⟩
    rw [closeString_escape, closeString_hex ha, closeString_hex hb, closeString_hex hc,
      closeString_hex hd, hclose]
    rfl
  | case5 => cases h
  | case6 e t he _ ih =>
    obtain ⟨w, hw, h⟩ := Option.bind_eq_some_iff.mp h
    obtain ⟨⟨v', r'⟩, hscan, heq⟩ := Option.map_eq_some_iff.mp h
    cases heq
    obtain ⟨used, hclose, rfl⟩ := ih hscan
    refine ⟨0x5C :: e :: used, ?_, rfl⟩
    rw [closeString_escape, hclose]
    rfl
  | case7 => cases h
  | case8 u t hquote hback hcontrol ih =>
    obtain ⟨⟨v', r'⟩, hscan, heq⟩ := Option.map_eq_some_iff.mp h
    cases heq
    obtain ⟨used, hclose, rfl⟩ := ih hscan
    refine ⟨u :: used, ?_, rfl⟩
    rw [closeString_plain hquote hback, hclose]
    rfl

/-- Where `JSON.parse` reads a string, the scanner reads the same one. -/
theorem scanKey_of_scanString {t v r : JsString} (h : Json.scanString t = some (v, r)) :
    scanKey code label t = .ok (v, r) := by
  obtain ⟨c, rfl, hc⟩ := Json.scanString_append h
  obtain ⟨c', hclose, heq⟩ := closeString_of_scanString h
  have hcc : c = c' := List.append_cancel_right heq
  have hliteral := hc []
  rw [List.append_nil] at hliteral
  rw [scanKey, hclose, ← hcc]
  dsimp only
  rw [Json.parse_literal hliteral]

/-! ## Literals -/

/-- The text is empty or starts with a unit that ends a literal. -/
def Ended (t : JsString) : Prop := ∀ u r, t = u :: r → endsLiteral u = true

theorem endsLiteral_of_isWs {u : UInt16} (h : Json.isWs u = true) : endsLiteral u = true := by
  simp only [Json.isWs, Bool.or_eq_true, decide_eq_true_eq] at h
  rcases h with ((rfl | rfl) | rfl) | rfl <;> decide

theorem ended_of_skipWs {t : JsString} (h : ∀ u r, Json.skipWs t = u :: r → endsLiteral u = true) :
    Ended t := by
  rintro u r rfl
  by_cases hu : Json.isWs u = true
  · exact endsLiteral_of_isWs hu
  · exact h u r (Json.skipWs_cons (by simpa using hu) r)

theorem dropWhile_ended {c r : JsString} (hc : ∀ u ∈ c, endsLiteral u = false) (hr : Ended r) :
    (c ++ r).dropWhile (fun v => !endsLiteral v) = r := by
  rw [List.dropWhile_append_of_pos fun u hu => by rw [hc u hu]; rfl]
  cases r with
  | nil => rfl
  | cons u r => rw [List.dropWhile_cons, hr u r rfl]; rfl

theorem endsLiteral_of_isNumberUnit {u : UInt16} (h : Json.isNumberUnit u = true) :
    endsLiteral u = false := by
  simp only [Json.isNumberUnit, Json.isDigit, Bool.or_eq_true, Bool.and_eq_true,
    decide_eq_true_eq] at h
  rcases h with ((((⟨hlow, hhigh⟩ | rfl) | rfl) | rfl) | rfl) | rfl
  · simp only [endsLiteral, isSpaceUnit, Bool.or_eq_false_iff, Bool.and_eq_false_iff,
      decide_eq_false_iff_not, ← UInt16.toNat_inj]
    simp
    omega
  all_goals decide

/-- `true`, `false`, `null` or a number ends where the scanner takes it to end. -/
theorem exists_of_token {fuel : ℕ} {t rest r : JsString} {u : UInt16} {j : Json}
    (ht : Json.skipWs t = u :: rest) (hobject : u ≠ 0x7B) (harray : u ≠ 0x5B) (hstring : u ≠ 0x22)
    (h : Json.parseValue (fuel + 1) t = some (j, r)) :
    (∃ c, rest = c ++ r ∧ ∀ v ∈ u :: c, endsLiteral v = false) ∧ j.UniqueNames := by
  rw [Json.parseValue_token ht hobject harray hstring] at h
  have hliteral : ∀ (name : JsString) (j' : Json), j'.UniqueNames → name ≠ [] →
      (name.all fun v => !endsLiteral v) = true → Json.scanLiteral name j' (u :: rest) = some (j, r) →
      (∃ c, rest = c ++ r ∧ ∀ v ∈ u :: c, endsLiteral v = false) ∧ j.UniqueNames := by
    intro name j' hj' hname hends hscan
    unfold Json.scanLiteral at hscan
    split_ifs at hscan with hprefix
    cases hscan
    obtain ⟨r', hr'⟩ := hprefix
    cases name with
    | nil => exact absurd rfl hname
    | cons v c =>
      cases hr'
      have hdrop : ((u :: c) ++ r').drop (u :: c).length = r' := List.drop_left
      refine ⟨⟨c, congrArg (c ++ ·) hdrop.symm, fun v hv => ?_⟩, hj'⟩
      simpa using List.all_eq_true.mp hends v hv
  split_ifs at h with htrue hfalse hnull
  · exact hliteral (js "true") (.bool true) trivial (by decide) (by decide +kernel) h
  · exact hliteral (js "false") (.bool false) trivial (by decide) (by decide +kernel) h
  · exact hliteral (js "null") .null trivial (by decide) (by decide +kernel) h
  · obtain ⟨⟨token, r'⟩, hscan, heq⟩ := Option.map_eq_some_iff.mp h
    cases heq
    obtain ⟨c, hc, hunits⟩ := Json.scanNumber_append hscan
    cases c with
    | nil =>
      have hlt := Json.length_lt_of_scanNumber hscan
      rw [hc] at hlt
      exact absurd hlt (Nat.lt_irrefl _)
    | cons v c =>
      rw [List.cons_append, List.cons.injEq] at hc
      obtain ⟨rfl, rfl⟩ := hc
      exact ⟨⟨c, rfl, fun w hw => endsLiteral_of_isNumberUnit (hunits w hw)⟩, trivial⟩

/-! ## The scanner on texts of JSON -/

theorem uniqueNames_array {xs : List Json} :
    (Json.array xs).UniqueNames ↔ ∀ x ∈ xs, x.UniqueNames := Json.uniqueNamesElements_iff

theorem uniqueNames_object {ms : List (JsString × Json)} : (Json.object ms).UniqueNames ↔
    (ms.map Prod.fst).Nodup ∧ ∀ m ∈ ms, m.2.UniqueNames := by
  rw [Json.UniqueNames, Json.uniqueNamesMembers_iff]

/-- What the scanner says of a text that `JSON.parse` reads: a value with a name twice is refused,
    and every other one is passed. -/
theorem scan_iff (fuel : ℕ) :
    (∀ t j r, Json.parseValue fuel t = some (j, r) → Ended r →
      ∀ r', scanValue code label fuel t = .ok r' ↔ j.UniqueNames ∧ r' = r) ∧
    (∀ t xs r, Json.parseElements fuel t = some (xs, r) →
      ∀ r', scanElements code label fuel t = .ok r' ↔ (∀ x ∈ xs, x.UniqueNames) ∧ r' = r) ∧
    (∀ t ms r, Json.parseMembers fuel t = some (ms, r) →
      ∀ seen r', scanMembers code label fuel seen t = .ok r' ↔
        ((ms.map Prod.fst).Nodup ∧ (∀ m ∈ ms, m.1 ∉ seen) ∧ ∀ m ∈ ms, m.2.UniqueNames) ∧ r' = r) := by
  induction fuel with
  | zero =>
    refine ⟨?_, ?_, ?_⟩
    · intro t j r h
      cases h
    · intro t xs r h
      cases h
    · intro t ms r h
      cases h
  | succ fuel ih =>
    obtain ⟨ihValue, ihElements, ihMembers⟩ := ih
    refine ⟨?_, ?_, ?_⟩
    · intro t j r h hended r'
      rw [scanValue]
      cases ht : Json.skipWs t with
      | nil =>
        rw [Json.parseValue, ht] at h
        cases h
      | cons u rest =>
        dsimp only
        by_cases hobject : u = 0x7B
        · rw [if_pos hobject]
          rw [Json.parseValue_object (hobject ▸ ht)] at h
          cases hskip : Json.skipWs rest with
          | nil =>
            rw [hskip, if_neg (by simp), Json.parseMembers_nil] at h
            cases h
          | cons v r₁ =>
            rw [hskip] at h
            simp only [List.head?_cons, Option.some.injEq, List.drop_succ_cons, List.drop_zero] at h
            dsimp only
            split_ifs at h ⊢ with hclose
            · cases h
              rw [uniqueNames_object, Except.ok.injEq]
              simp [eq_comm]
            · obtain ⟨⟨ms, r₂⟩, hmembers, heq⟩ := Option.map_eq_some_iff.mp h
              cases heq
              rw [ihMembers _ _ _ hmembers, uniqueNames_object]
              simp
        rw [if_neg hobject]
        by_cases harray : u = 0x5B
        · rw [if_pos harray]
          rw [Json.parseValue_array (harray ▸ ht)] at h
          cases hskip : Json.skipWs rest with
          | nil =>
            rw [hskip, if_neg (by simp), Json.parseElements_nil] at h
            cases h
          | cons v r₁ =>
            rw [hskip] at h
            simp only [List.head?_cons, Option.some.injEq, List.drop_succ_cons, List.drop_zero] at h
            dsimp only
            split_ifs at h ⊢ with hclose
            · cases h
              rw [uniqueNames_array, Except.ok.injEq]
              simp [eq_comm]
            · obtain ⟨⟨xs, r₂⟩, helements, heq⟩ := Option.map_eq_some_iff.mp h
              cases heq
              rw [ihElements _ _ _ helements, uniqueNames_array]
        rw [if_neg harray]
        by_cases hstring : u = 0x22
        · rw [if_pos hstring]
          rw [Json.parseValue, ht] at h
          dsimp only at h
          rw [if_neg hobject, if_neg harray, if_pos hstring] at h
          obtain ⟨⟨v, r₁⟩, hscan, heq⟩ := Option.map_eq_some_iff.mp h
          cases heq
          rw [scanKey_of_scanString hscan]
          simp [Except.map, Json.UniqueNames, eq_comm]
        · obtain ⟨⟨c, hc, hunits⟩, hnames⟩ := exists_of_token ht hobject harray hstring h
          rw [if_neg hstring, if_neg (by rw [hunits u List.mem_cons_self]; decide), hc,
            dropWhile_ended (fun v hv => hunits v (List.mem_cons_of_mem u hv)) hended, Except.ok.injEq]
          exact ⟨fun heq => ⟨hnames, heq.symm⟩, fun h => h.2.symm⟩
    · intro t xs r h r'
      obtain ⟨j, r₁, u, t', hvalue, hskip, hitem⟩ := Json.parseElements_eq_some h
      have hended : Ended r₁ := by
        apply ended_of_skipWs
        intro v r₂ hv
        rw [hskip] at hv
        cases hv
        rcases hitem with ⟨rfl, -⟩ | ⟨rfl, -⟩ <;> decide
      rw [scanElements, bind_eq_ok]
      simp only [ihValue _ _ _ hvalue hended, and_assoc, exists_and_left, exists_eq_left, hskip]
      rcases hitem with ⟨rfl, rfl, rfl⟩ | ⟨rfl, xs', rfl, hrest⟩
      · rw [if_pos rfl, Except.ok.injEq]
        simp [eq_comm]
      · have hne : t' ≠ [] := by
          rintro rfl
          rw [Json.parseElements_nil] at hrest
          cases hrest
        rw [if_neg (by decide), if_pos rfl, if_neg hne, ihElements _ _ _ hrest,
          List.forall_mem_cons, and_assoc]
    · intro t ms r h seen r'
      obtain ⟨t₀, key, r₀, r₁, j, r₂, u, t', hopen, hscan, hcolon, hvalue, hskip, hitem⟩ :=
        Json.parseMembers_eq_some h
      have hended : Ended r₂ := by
        apply ended_of_skipWs
        intro v r₃ hv
        rw [hskip] at hv
        cases hv
        rcases hitem with ⟨rfl, -⟩ | ⟨rfl, -⟩ <;> decide
      rw [scanMembers, hopen]
      dsimp only
      rw [if_pos rfl, scanKey_of_scanString hscan]
      simp only [bind_eq_ok, Except.ok.injEq, exists_eq_left', requireAs_eq_ok, exists_const, hcolon,
        if_pos, ihValue _ _ _ hvalue hended, and_assoc, exists_and_left, exists_eq_left, hskip,
        decide_eq_true_eq]
      rcases hitem with ⟨rfl, rfl, rfl⟩ | ⟨rfl, ms', rfl, hrest⟩
      · rw [if_pos rfl, Except.ok.injEq]
        simp [eq_comm]
      · have hne : t' ≠ [] := by
          rintro rfl
          rw [Json.parseMembers_nil] at hrest
          cases hrest
        rw [if_neg (by decide), if_pos rfl, if_neg hne, ihMembers _ _ _ hrest, List.map_cons,
          List.nodup_cons, List.forall_mem_cons, List.forall_mem_cons]
        simp only [List.mem_cons, not_or, List.mem_map, not_exists, not_and]
        constructor
        · rintro ⟨hkey, hj, ⟨hnodup, hseen, hnames⟩, rfl⟩
          exact ⟨⟨fun m hm heq => (hseen m hm).1 heq, hnodup⟩, ⟨hkey, fun m hm => (hseen m hm).2⟩,
            ⟨hj, hnames⟩, rfl⟩
        · rintro ⟨⟨hkey, hnodup⟩, ⟨hseen, hseen'⟩, ⟨hj, hnames⟩, rfl⟩
          exact ⟨hseen, hj, ⟨hnodup, fun m hm => ⟨hkey m hm, hseen' m hm⟩, hnames⟩, rfl⟩

theorem scanObjectKeys_iff {t : JsString} {j : Json} (h : Json.parse t = some j) :
    scanObjectKeys code label t = .ok () ↔ j.UniqueNames := by
  obtain ⟨⟨j', r⟩, hvalue, hrest⟩ := Option.bind_eq_some_iff.mp h
  dsimp only at hrest
  split_ifs at hrest with hnil
  cases hrest
  have hended : Ended r := by
    apply ended_of_skipWs
    rw [hnil]
    intro u r' hcons
    cases hcons
  rw [scanObjectKeys, bind_eq_ok]
  simp only [(scan_iff _).1 _ _ _ hvalue hended, requireAs_eq_ok, decide_eq_true_eq]
  constructor
  · rintro ⟨r', ⟨hnames, -⟩, -⟩
    exact hnames
  · intro hnames
    exact ⟨r, ⟨hnames, rfl⟩, hnil⟩

/-! ## The end of the scan -/

theorem length_lt_of_closeString {s literal rest : JsString} (h : closeString s = some (literal, rest)) :
    rest.length < s.length := by
  fun_induction closeString s generalizing literal with
  | case1 => cases h
  | case2 s =>
    cases h
    exact Nat.lt_succ_self _
  | case3 => cases h
  | case4 v s hquote ih =>
    obtain ⟨⟨literal', rest'⟩, hclose, heq⟩ := Option.map_eq_some_iff.mp h
    cases heq
    have hlt : rest'.length < s.length := ih hclose
    simp only [List.length_cons]
    omega
  | case5 u s hquote hback ih =>
    obtain ⟨⟨literal', rest'⟩, hclose, heq⟩ := Option.map_eq_some_iff.mp h
    cases heq
    have hlt : rest'.length < s.length := ih hclose
    simp only [List.length_cons]
    omega

theorem length_lt_of_scanKey {s key rest : JsString} (h : scanKey code label s = .ok (key, rest)) :
    rest.length < s.length := by
  unfold scanKey at h
  split at h
  · rename_i literal rest' hclose
    split at h
    · cases h
      exact length_lt_of_closeString hclose
    · cases h
  · cases h

/-- What the scanner leaves is shorter than what it was given. -/
theorem scan_shorter (fuel : ℕ) :
    (∀ s r, scanValue code label fuel s = .ok r → r.length < s.length) ∧
    (∀ s r, scanElements code label fuel s = .ok r → r.length < s.length) ∧
    (∀ seen s r, scanMembers code label fuel seen s = .ok r → r.length < s.length) := by
  induction fuel with
  | zero =>
    refine ⟨?_, ?_, ?_⟩
    · intro s r h
      cases h
    · intro s r h
      cases h
    · intro seen s r h
      cases h
  | succ fuel ih =>
    obtain ⟨ihValue, ihElements, ihMembers⟩ := ih
    refine ⟨?_, ?_, ?_⟩
    · intro s r h
      rw [scanValue] at h
      cases hskip : Json.skipWs s with
      | nil =>
        rw [hskip] at h
        cases h
      | cons u rest =>
        have hrest := Json.length_of_skipWs hskip
        rw [hskip] at h
        dsimp only at h
        split_ifs at h with hobject harray hstring hends
        · cases hskip' : Json.skipWs rest with
          | nil =>
            rw [hskip'] at h
            cases h
          | cons v r' =>
            have hlist := Json.length_of_skipWs hskip'
            rw [hskip'] at h
            dsimp only at h
            split_ifs at h
            · cases h
              omega
            · have := ihMembers _ _ _ h
              rw [List.length_cons] at this
              omega
        · cases hskip' : Json.skipWs rest with
          | nil =>
            rw [hskip'] at h
            cases h
          | cons v r' =>
            have hlist := Json.length_of_skipWs hskip'
            rw [hskip'] at h
            dsimp only at h
            split_ifs at h
            · cases h
              omega
            · have := ihElements _ _ h
              rw [List.length_cons] at this
              omega
        · obtain ⟨⟨key, r'⟩, hkey, rfl⟩ := map_eq_ok.mp h
          have := length_lt_of_scanKey hkey
          dsimp only
          omega
        · cases h
        · cases h
          have := (List.dropWhile_sublist (fun v => !endsLiteral v) (l := rest)).length_le
          omega
    · intro s r h
      rw [scanElements] at h
      obtain ⟨r₁, hvalue, h⟩ := bind_eq_ok.mp h
      have hshorter := ihValue _ _ hvalue
      cases hskip : Json.skipWs r₁ with
      | nil =>
        rw [hskip] at h
        cases h
      | cons u rest =>
        have hrest := Json.length_of_skipWs hskip
        rw [hskip] at h
        dsimp only at h
        split_ifs at h
        · cases h
          omega
        · cases h
        · have := ihElements _ _ h
          omega
        · cases h
    · intro seen s r h
      rw [scanMembers] at h
      cases hskip : Json.skipWs s with
      | nil =>
        rw [hskip] at h
        cases h
      | cons u rest =>
        have hrest := Json.length_of_skipWs hskip
        rw [hskip] at h
        dsimp only at h
        split_ifs at h
        · obtain ⟨⟨key, r₁⟩, hkey, h⟩ := bind_eq_ok.mp h
          obtain ⟨-, -, h⟩ := bind_eq_ok.mp h
          have hlt := length_lt_of_scanKey hkey
          dsimp only at h
          cases hcolon : Json.skipWs r₁ with
          | nil =>
            rw [hcolon] at h
            cases h
          | cons c r₂ =>
            have hafter := Json.length_of_skipWs hcolon
            rw [hcolon] at h
            dsimp only at h
            split_ifs at h
            · obtain ⟨r₃, hvalue, h⟩ := bind_eq_ok.mp h
              have hshorter := ihValue _ _ hvalue
              cases hitem : Json.skipWs r₃ with
              | nil =>
                rw [hitem] at h
                cases h
              | cons w r₄ =>
                have hlast := Json.length_of_skipWs hitem
                rw [hitem] at h
                dsimp only at h
                split_ifs at h
                · cases h
                  omega
                · cases h
                · have := ihMembers _ _ _ h
                  omega
                · cases h
            · cases h
        · cases h

theorem bind_congr_of_ok {ε α β : Type} {x : Except ε α} {k k' : α → Except ε β}
    (h : ∀ a, x = .ok a → k a = k' a) : x >>= k = x >>= k' := by
  cases x with
  | error e => rfl
  | ok a => exact h a rfl

mutual

/-- One more call of fuel changes nothing, once there are two for each unit. -/
theorem scanValue_succ {fuel : ℕ} {s : JsString} (h : 2 * s.length + 1 ≤ fuel) :
    scanValue code label (fuel + 1) s = scanValue code label fuel s := by
  match fuel with
  | 0 => omega
  | fuel + 1 =>
    rw [scanValue, scanValue]
    cases hskip : Json.skipWs s with
    | nil => rfl
    | cons u rest =>
      have hrest := Json.length_of_skipWs hskip
      dsimp only
      cases hskip' : Json.skipWs rest with
      | nil => rfl
      | cons v r =>
        have hlist := Json.length_of_skipWs hskip'
        have hmembers : scanMembers code label (fuel + 1) [] (v :: r) =
            scanMembers code label fuel [] (v :: r) := scanMembers_succ (by rw [List.length_cons]; omega)
        have helements : scanElements code label (fuel + 1) (v :: r) =
            scanElements code label fuel (v :: r) := scanElements_succ (by rw [List.length_cons]; omega)
        dsimp only
        rw [hmembers, helements]

theorem scanElements_succ {fuel : ℕ} {s : JsString} (h : 2 * s.length + 2 ≤ fuel) :
    scanElements code label (fuel + 1) s = scanElements code label fuel s := by
  match fuel with
  | 0 => omega
  | fuel + 1 =>
    have hvalue : scanValue code label (fuel + 1) s = scanValue code label fuel s :=
      scanValue_succ (by omega)
    rw [scanElements, scanElements, hvalue]
    refine bind_congr_of_ok fun r hr => ?_
    have hshorter := (scan_shorter _).1 _ _ hr
    cases hskip : Json.skipWs r with
    | nil => rfl
    | cons u rest =>
      have hrest := Json.length_of_skipWs hskip
      have helements : scanElements code label (fuel + 1) rest = scanElements code label fuel rest :=
        scanElements_succ (by omega)
      dsimp only
      rw [helements]

theorem scanMembers_succ {fuel : ℕ} {seen : List JsString} {s : JsString}
    (h : 2 * s.length + 1 ≤ fuel) :
    scanMembers code label (fuel + 1) seen s = scanMembers code label fuel seen s := by
  match fuel with
  | 0 => omega
  | fuel + 1 =>
    rw [scanMembers, scanMembers]
    cases hskip : Json.skipWs s with
    | nil => rfl
    | cons u rest =>
      have hrest := Json.length_of_skipWs hskip
      dsimp only
      congr 1
      refine bind_congr_of_ok fun k hk => bind_congr_of_ok fun _ _ => ?_
      obtain ⟨key, r⟩ := k
      have hkey := length_lt_of_scanKey hk
      dsimp only
      cases hcolon : Json.skipWs r with
      | nil => rfl
      | cons c r' =>
        have hafter := Json.length_of_skipWs hcolon
        have hvalue : scanValue code label (fuel + 1) r' = scanValue code label fuel r' :=
          scanValue_succ (by omega)
        dsimp only
        rw [hvalue]
        congr 1
        refine bind_congr_of_ok fun r₁ hr₁ => ?_
        have hshorter := (scan_shorter _).1 _ _ hr₁
        cases hitem : Json.skipWs r₁ with
        | nil => rfl
        | cons w rest' =>
          have hlast := Json.length_of_skipWs hitem
          have hmembers : scanMembers code label (fuel + 1) (key :: seen) rest' =
              scanMembers code label fuel (key :: seen) rest' := scanMembers_succ (by omega)
          dsimp only
          rw [hmembers]

end

/-- A call of the scanner: of `parseValue()`, or of a round of one of the two loops. -/
inductive ScanCall where
  | value (s : JsString)
  | elements (s : JsString)
  | members (seen : List JsString) (s : JsString)

/-- The calls that a call makes. -/
inductive Calls (code : DiagnosticCode) (label : JsString) : ScanCall → ScanCall → Prop
  | object (s rest r : JsString) (v : UInt16) (hopen : Json.skipWs s = 0x7B :: rest)
    (hskip : Json.skipWs rest = v :: r) (hclose : v ≠ 0x7D) :
    Calls code label (.value s) (.members [] (v :: r))
  | array (s rest r : JsString) (v : UInt16) (hopen : Json.skipWs s = 0x5B :: rest)
    (hskip : Json.skipWs rest = v :: r) (hclose : v ≠ 0x5D) :
    Calls code label (.value s) (.elements (v :: r))
  | element (s : JsString) : Calls code label (.elements s) (.value s)
  | nextElement (fuel : ℕ) (s r rest : JsString) (hvalue : scanValue code label fuel s = .ok r)
    (hcomma : Json.skipWs r = 0x2C :: rest) (hmore : rest ≠ []) :
    Calls code label (.elements s) (.elements rest)
  | member (seen : List JsString) (s rest key r r' : JsString)
    (hopen : Json.skipWs s = 0x22 :: rest) (hkey : scanKey code label rest = .ok (key, r))
    (hseen : key ∉ seen) (hcolon : Json.skipWs r = 0x3A :: r') :
    Calls code label (.members seen s) (.value r')
  | nextMember (fuel : ℕ) (seen : List JsString) (s rest key r r' r'' rest' : JsString)
    (hopen : Json.skipWs s = 0x22 :: rest) (hkey : scanKey code label rest = .ok (key, r))
    (hseen : key ∉ seen) (hcolon : Json.skipWs r = 0x3A :: r')
    (hvalue : scanValue code label fuel r' = .ok r'') (hcomma : Json.skipWs r'' = 0x2C :: rest')
    (hmore : rest' ≠ []) :
    Calls code label (.members seen s) (.members (key :: seen) rest')

/-- The fuel that is enough for a call. -/
def ScanCall.need : ScanCall → ℕ
  | .value s => 2 * s.length + 1
  | .elements s => 2 * s.length + 2
  | .members _ s => 2 * s.length + 1

/-- The answer to a call. -/
def ScanCall.scan (code : DiagnosticCode) (label : JsString) (fuel : ℕ) :
    ScanCall → Except StrictError JsString
  | .value s => scanValue code label fuel s
  | .elements s => scanElements code label fuel s
  | .members seen s => scanMembers code label fuel seen s

theorem need_lt_of_calls {c c' : ScanCall} (h : Calls code label c c') : c'.need < c.need := by
  cases h with
  | object s rest r v hopen hskip hclose =>
    have hrest := Json.length_of_skipWs hopen
    have hlist := Json.length_of_skipWs hskip
    simp only [ScanCall.need, List.length_cons]
    omega
  | array s rest r v hopen hskip hclose =>
    have hrest := Json.length_of_skipWs hopen
    have hlist := Json.length_of_skipWs hskip
    simp only [ScanCall.need, List.length_cons]
    omega
  | element s => exact Nat.lt_succ_self _
  | nextElement fuel s r rest hvalue hcomma hmore =>
    have hshorter := (scan_shorter _).1 _ _ hvalue
    have hrest := Json.length_of_skipWs hcomma
    simp only [ScanCall.need]
    omega
  | member seen s rest key r r' hopen hkey hseen hcolon =>
    have hrest := Json.length_of_skipWs hopen
    have hlt := length_lt_of_scanKey hkey
    have hafter := Json.length_of_skipWs hcolon
    simp only [ScanCall.need]
    omega
  | nextMember fuel seen s rest key r r' r'' rest' hopen hkey hseen hcolon hvalue hcomma hmore =>
    have hrest := Json.length_of_skipWs hopen
    have hlt := length_lt_of_scanKey hkey
    have hafter := Json.length_of_skipWs hcolon
    have hshorter := (scan_shorter _).1 _ _ hvalue
    have hlast := Json.length_of_skipWs hcomma
    simp only [ScanCall.need]
    omega

/-- No call leads to calls without end. -/
theorem wellFounded_calls (code : DiagnosticCode) (label : JsString) :
    WellFounded fun c' c => Calls code label c c' :=
  Subrelation.wf need_lt_of_calls (measure ScanCall.need).wf

/-- The answer to a call does not depend on the fuel, once that is enough. -/
theorem scan_of_need_le {c : ScanCall} {fuel : ℕ} (h : c.need ≤ fuel) :
    c.scan code label fuel = c.scan code label c.need := by
  induction fuel, h using Nat.le_induction with
  | base => rfl
  | succ n hn ih =>
    rw [← ih]
    cases c with
    | value s => exact scanValue_succ hn
    | elements s => exact scanElements_succ hn
    | members seen s => exact scanMembers_succ hn

/-! ## The code of an error -/

/-- Every error has this code. -/
def Coded {α : Type} (code : DiagnosticCode) (x : Except StrictError α) : Prop :=
  ∀ e, x = .error e → e.code = code

section Coded

variable {α β : Type}

theorem coded_ok (a : α) : Coded code (.ok a) := by
  intro e h
  cases h

theorem coded_throw (message : JsString) : Coded (α := α) code (throwPomRxV01Strict code message) := by
  intro e h
  cases h
  rfl

theorem coded_requireAs (condition : Bool) (message : JsString) :
    Coded code (requireAs code condition message) := by
  unfold requireAs
  split
  · exact coded_ok ()
  · exact coded_throw message

theorem Coded.bind {x : Except StrictError α} {k : α → Except StrictError β} (hx : Coded code x)
    (hk : ∀ a, Coded code (k a)) : Coded code (x >>= k) := by
  cases x with
  | error e =>
    intro e' h
    cases h
    exact hx e rfl
  | ok a => exact hk a

theorem coded_scanKey (s : JsString) : Coded code (scanKey code label s) := by
  unfold scanKey
  split
  · split
    · exact coded_ok _
    · exact coded_throw _
  · exact coded_throw _

theorem coded_scan (fuel : ℕ) :
    (∀ s, Coded code (scanValue code label fuel s)) ∧
    (∀ s, Coded code (scanElements code label fuel s)) ∧
    (∀ seen s, Coded code (scanMembers code label fuel seen s)) := by
  induction fuel with
  | zero => exact ⟨fun _ => coded_throw _, fun _ => coded_throw _, fun _ _ => coded_throw _⟩
  | succ fuel ih =>
    obtain ⟨ihValue, ihElements, ihMembers⟩ := ih
    refine ⟨?_, ?_, ?_⟩
    · intro s
      rw [scanValue]
      split
      · exact coded_throw _
      · split_ifs
        · split
          · exact coded_throw _
          · split_ifs
            · exact coded_ok _
            · exact ihMembers _ _
        · split
          · exact coded_throw _
          · split_ifs
            · exact coded_ok _
            · exact ihElements _
        · rename_i u rest _ _ _ _
          have hkey : Coded code (scanKey code label rest) := coded_scanKey rest
          cases hscan : scanKey code label rest with
          | error e =>
            intro e' h
            cases h
            exact hkey e hscan
          | ok p => exact coded_ok _
        · exact coded_throw _
        · exact coded_ok _
    · intro s
      rw [scanElements]
      refine (ihValue s).bind fun r => ?_
      split
      · exact coded_throw _
      · split_ifs
        · exact coded_ok _
        · exact coded_throw _
        · exact ihElements _
        · exact coded_throw _
    · intro seen s
      rw [scanMembers]
      split
      · exact coded_throw _
      · split_ifs
        · refine (coded_scanKey _).bind fun k => (coded_requireAs _ _).bind fun _ => ?_
          split
          · exact coded_throw _
          · split_ifs
            · refine (ihValue _).bind fun r => ?_
              split
              · exact coded_throw _
              · split_ifs
                · exact coded_ok _
                · exact coded_throw _
                · exact ihMembers _ _
                · exact coded_throw _
            · exact coded_throw _
        · exact coded_throw _

theorem coded_scanObjectKeys (t : JsString) : Coded code (scanObjectKeys code label t) :=
  ((coded_scan _).1 t).bind fun _ => coded_requireAs _ _

theorem coded_parsePomRxV01ExactJson (bytes : List UInt8) (maxBytes : ℕ) :
    Coded code (parsePomRxV01ExactJson code label bytes maxBytes) := by
  unfold parsePomRxV01ExactJson
  refine (coded_requireAs _ _).bind fun _ => (coded_requireAs _ _).bind fun _ => ?_
  split
  · exact coded_throw _
  · refine (coded_scanObjectKeys _).bind fun _ => ?_
    split
    · exact coded_ok _
    · exact coded_throw _

end Coded

/-! ## The reader -/

/-- The bytes are the UTF-8 encoding, without a byte order mark, of a JSON text of this value, and
    no object of it has a name twice. -/
structure ExactJson (bytes : List UInt8) (text : JsString) (j : Json) : Prop where
  encoding : bytes = utf8Encode text
  scalar : Scalar (codePoints text)
  noMark : ¬ [0xEF, 0xBB, 0xBF] <+: bytes
  denotes : Json.parse text = some j
  names : j.UniqueNames

theorem parsePomRxV01ExactJson_eq_ok {bytes : List UInt8} {maxBytes : ℕ} {value : JsValue} :
    parsePomRxV01ExactJson code label bytes maxBytes = .ok value ↔
      (1 ≤ bytes.length ∧ bytes.length ≤ maxBytes) ∧
        ∃ text j, ExactJson bytes text j ∧ value = j.toJs := by
  have hmark : bytes.take 3 ≠ [0xEF, 0xBB, 0xBF] ↔ ¬ [0xEF, 0xBB, 0xBF] <+: bytes := by
    rw [List.prefix_iff_eq_take, ne_comm]
    rfl
  simp only [parsePomRxV01ExactJson, bind_eq_ok, requireAs_eq_ok, exists_const, Bool.and_eq_true,
    decide_eq_true_eq, hmark]
  refine and_congr_right fun _ => ?_
  constructor
  · rintro ⟨hnoMark, h⟩
    split at h
    · cases h
    · rename_i text hdecode
      obtain ⟨hencoding, hscalar⟩ := Utf8.decodeFatal_eq_some.mp hdecode
      obtain ⟨_, hscan, h⟩ := bind_eq_ok.mp h
      split at h
      · rename_i v hparse
        cases h
        obtain ⟨j, hj, rfl⟩ := Option.map_eq_some_iff.mp hparse
        exact ⟨text, j, ⟨hencoding, hscalar, hnoMark, hj, (scanObjectKeys_iff hj).mp hscan⟩, rfl⟩
      · cases h
  · rintro ⟨text, j, hexact, rfl⟩
    refine ⟨hexact.noMark, ?_⟩
    have hdecode := Utf8.decodeFatal_eq_some.mpr ⟨hexact.encoding, hexact.scalar⟩
    have hparse : jsonParse text = some j.toJs := by
      rw [jsonParse, hexact.denotes]
      rfl
    rw [hdecode]
    dsimp only
    rw [(scanObjectKeys_iff hexact.denotes).mpr hexact.names]
    simp only [bind, Except.bind, hparse]

/-- The reader returns the value of the exact JSON texts, and of no other bytes; an error has the
    code of the caller; and the scanner ends on every text. -/
theorem parsePomRxV01ExactJson_exact (code : DiagnosticCode) (label : JsString)
    (bytes : List UInt8) (maxBytes : ℕ) :
    (∀ value, parsePomRxV01ExactJson code label bytes maxBytes = .ok value ↔
      (1 ≤ bytes.length ∧ bytes.length ≤ maxBytes) ∧
        ∃ text j, ExactJson bytes text j ∧ value = j.toJs) ∧
    (∀ e, parsePomRxV01ExactJson code label bytes maxBytes = .error e → e.code = code) ∧
    (WellFounded fun c' c => Calls code label c c') ∧
    ∀ text fuel, Json.textFuel text ≤ fuel →
      scanValue code label fuel text = scanValue code label (Json.textFuel text) text := by
  refine ⟨fun value => parsePomRxV01ExactJson_eq_ok, coded_parsePomRxV01ExactJson bytes maxBytes,
    wellFounded_calls code label, ?_⟩
  intro text fuel h
  have hneed : (ScanCall.value text).need ≤ Json.textFuel text := Nat.le_succ _
  exact (scan_of_need_le (hneed.trans h)).trans (scan_of_need_le hneed).symm

end OpenRisk.Strict
