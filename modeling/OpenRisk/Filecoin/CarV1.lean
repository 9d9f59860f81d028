import OpenRisk.Filecoin.Built

/-!
# CARv1 archives of raw blocks

The archive format and the identifiers that the bundle uses, for one root: CARv1 with
blocks under CIDv1 of the raw codec and SHA-256, written in base 32. `carV1` is the library
on these; `carV1_lawful` says that it reads what it writes.

Results:
* `parse_cidText`: the text of an identifier is read back.
* `readSections_write`: the sections of an archive are read back.
* `carV1_lawful`: the library meets what the bundle relies on.
-/

namespace OpenRisk.Filecoin

open Text Sdk

/-! ## Digits of a fixed number -/

/-- The last `w` digits of a number, the highest first. -/
def fixedDigits (b : ℕ) : ℕ → ℕ → List ℕ
  | 0, _ => []
  | w + 1, n => fixedDigits b w (n / b) ++ [n % b]

/-- The number that digits denote, the highest first. -/
def digitsValue (b : ℕ) (ds : List ℕ) : ℕ := ds.foldl (fun n d => n * b + d) 0

theorem length_fixedDigits (b w n : ℕ) : (fixedDigits b w n).length = w := by
  induction w generalizing n with
  | zero => rfl
  | succ w ih => rw [fixedDigits, List.length_append, ih, List.length_singleton]

theorem lt_of_mem_fixedDigits {b w n d : ℕ} (hb : 0 < b) (h : d ∈ fixedDigits b w n) : d < b := by
  induction w generalizing n with
  | zero => cases h
  | succ w ih =>
    rw [fixedDigits, List.mem_append, List.mem_singleton] at h
    rcases h with h | rfl
    · exact ih h
    · exact Nat.mod_lt _ hb

theorem digitsValue_append (b : ℕ) (ds : List ℕ) (d : ℕ) :
    digitsValue b (ds ++ [d]) = digitsValue b ds * b + d := by
  rw [digitsValue, List.foldl_append]
  rfl

theorem digitsValue_fixedDigits {b w n : ℕ} (h : n < b ^ w) :
    digitsValue b (fixedDigits b w n) = n := by
  induction w generalizing n with
  | zero =>
    rw [pow_zero, Nat.lt_one_iff] at h
    rw [h]
    rfl
  | succ w ih =>
    have hlt : n / b < b ^ w := by
      apply Nat.div_lt_of_lt_mul
      rwa [pow_succ, Nat.mul_comm] at h
    rw [fixedDigits, digitsValue_append, ih hlt]
    exact Nat.div_add_mod' n b

theorem digitsValue_lt {b : ℕ} {ds : List ℕ} (h : ∀ d ∈ ds, d < b) :
    digitsValue b ds < b ^ ds.length := by
  induction ds using List.reverseRecOn with
  | nil => exact Nat.one_pos
  | append_singleton ds d ih =>
    have hd := h d (by simp)
    have hds := ih fun e he => h e (by simp [he])
    rw [digitsValue_append, List.length_append, List.length_singleton, pow_succ]
    calc digitsValue b ds * b + d < digitsValue b ds * b + b := by omega
      _ = (digitsValue b ds + 1) * b := by ring
      _ ≤ b ^ ds.length * b := Nat.mul_le_mul_right b hds

theorem fixedDigits_digitsValue {b : ℕ} {ds : List ℕ} (h : ∀ d ∈ ds, d < b) :
    fixedDigits b ds.length (digitsValue b ds) = ds := by
  induction ds using List.reverseRecOn with
  | nil => rfl
  | append_singleton ds d ih =>
    have hd := h d (by simp)
    have hb : 0 < b := by omega
    rw [digitsValue_append, List.length_append, List.length_singleton, fixedDigits]
    have hdiv : (digitsValue b ds * b + d) / b = digitsValue b ds := by
      rw [Nat.mul_comm, Nat.mul_add_div hb, Nat.div_eq_of_lt hd, Nat.add_zero]
    have hmod : (digitsValue b ds * b + d) % b = d := by
      rw [Nat.mul_comm, Nat.mul_add_mod, Nat.mod_eq_of_lt hd]
    rw [hdiv, hmod, ih fun e he => h e (by simp [he])]

/-! ## Identifiers -/

/-- The bytes of the identifier of a raw block: version 1, raw codec, SHA-256, 32 bytes. -/
def cidBytes (digest : List UInt8) : List UInt8 := [0x01, 0x55, 0x12, 0x20] ++ digest

/-- A digit in the alphabet `a` to `z`, `2` to `7`. -/
def base32Unit (d : ℕ) : UInt16 := (if d < 26 then 0x61 + d else 0x18 + d).toUInt16

def base32Value (u : UInt16) : Option ℕ :=
  if 0x61 ≤ u.toNat ∧ u.toNat ≤ 0x7A then some (u.toNat - 0x61)
  else if 0x32 ≤ u.toNat ∧ u.toNat ≤ 0x37 then some (u.toNat - 0x18)
  else none

/-- `cid.toString()`: the 288 bits and two zero bits as 58 digits of base 32. -/
def cidText (digest : List UInt8) : JsString :=
  0x62 :: (fixedDigits 32 58 (digitsValue 256 ((cidBytes digest).map UInt8.toNat) * 4)).map base32Unit

/-- `CID.parse(text)` on identifiers of this kind. -/
def parseCid (text : JsString) : Option (List UInt8) :=
  match text with
  | 0x62 :: units =>
    match units.mapM base32Value with
    | some digits =>
      let n := digitsValue 32 digits
      let bytes := (fixedDigits 256 36 (n / 4)).map Nat.toUInt8
      if units.length = 58 ∧ n % 4 = 0 ∧ bytes.take 4 = [0x01, 0x55, 0x12, 0x20] then
        some (bytes.drop 4)
      else none
    | none => none
  | _ => none

theorem base32Value_base32Unit : ∀ d, d < 32 → base32Value (base32Unit d) = some d := by decide

theorem map_toUInt8_toNat (l : List UInt8) : (l.map UInt8.toNat).map Nat.toUInt8 = l := by
  rw [List.map_map]
  exact (List.map_congr_left fun b _ => by simp).trans l.map_id

/-- The text of an identifier is read back. -/
theorem parse_cidText {digest : List UInt8} (h : digest.length = 32) :
    parseCid (cidText digest) = some digest := by
  have hlen : ((cidBytes digest).map UInt8.toNat).length = 36 := by
    rw [List.length_map, cidBytes, List.length_append, h]
    rfl
  have hbytes : ∀ d ∈ (cidBytes digest).map UInt8.toNat, d < 256 := by
    intro d hd
    obtain ⟨b, -, rfl⟩ := List.mem_map.mp hd
    exact b.toNat_lt
  have hlt := digitsValue_lt hbytes
  rw [hlen] at hlt
  have hback := fixedDigits_digitsValue hbytes
  rw [hlen] at hback
  generalize hn : digitsValue 256 ((cidBytes digest).map UInt8.toNat) = n at hlt hback
  have hdigits : ((fixedDigits 32 58 (n * 4)).map base32Unit).mapM base32Value =
      some (fixedDigits 32 58 (n * 4)) := by
    rw [List.mapM_map]
    have hall : ∀ d ∈ fixedDigits 32 58 (n * 4), d < 32 :=
      fun d hd => lt_of_mem_fixedDigits (by norm_num) hd
    generalize fixedDigits 32 58 (n * 4) = ds at hall
    induction ds with
    | nil => rfl
    | cons d ds ih =>
      rw [List.mapM_cons, Function.comp_apply, base32Value_base32Unit d (hall d (by simp)),
        ih fun e he => hall e (by simp [he])]
      rfl
  have hvalue : digitsValue 32 (fixedDigits 32 58 (n * 4)) = n * 4 := by
    apply digitsValue_fixedDigits
    norm_num at hlt ⊢
    omega
  rw [cidText, hn]
  unfold parseCid
  simp only [hdigits, hvalue, Nat.mul_div_cancel _ (show 0 < 4 by norm_num), hback,
    map_toUInt8_toNat, List.length_map, length_fixedDigits, Nat.mul_mod_left]
  rfl

/-! ## Sections -/

/-- An unsigned varint: seven bits in each byte, the lowest first. -/
def varint (n : ℕ) : List UInt8 :=
  if n < 128 then [n.toUInt8] else (n % 128 + 128).toUInt8 :: varint (n / 128)
termination_by n
decreasing_by omega

/-- The varint at the start of the bytes, and the bytes after it. -/
def readVarint : List UInt8 → Option (ℕ × List UInt8)
  | [] => none
  | b :: rest =>
    if b.toNat < 128 then some (b.toNat, rest)
    else (readVarint rest).map fun r => (b.toNat - 128 + 128 * r.1, r.2)

theorem readVarint_varint (n : ℕ) (rest : List UInt8) :
    readVarint (varint n ++ rest) = some (n, rest) := by
  induction n using Nat.strongRecOn with
  | ind n ih =>
    rw [varint]
    by_cases hn : n < 128
    · have hbyte : n.toUInt8.toNat = n := by
        rw [Nat.toUInt8_eq, UInt8.toNat_ofNat']
        omega
      rw [if_pos hn, List.singleton_append, readVarint, hbyte, if_pos hn]
    · have hbyte : (n % 128 + 128).toUInt8.toNat = n % 128 + 128 := by
        rw [Nat.toUInt8_eq, UInt8.toNat_ofNat']
        omega
      have hbig : ¬ n % 128 + 128 < 128 := by omega
      rw [if_neg hn, List.cons_append, readVarint, hbyte, if_neg hbig, ih _ (by omega),
        Option.map_some, Option.some.injEq, Prod.mk.injEq, and_iff_left rfl]
      omega

/-- The section of a block. -/
def blockSection (block : Block (List UInt8)) : List UInt8 :=
  let content := cidBytes block.cid ++ block.bytes
  varint content.length ++ content

/-- The header: the CBOR map of `roots`, with one root, and `version`, 1. -/
def header (root : List UInt8) : List UInt8 :=
  [0x3A, 0xA2, 0x65, 0x72, 0x6F, 0x6F, 0x74, 0x73, 0x81, 0xD8, 0x2A, 0x58, 0x25, 0x00] ++
    cidBytes root ++ [0x67, 0x76, 0x65, 0x72, 0x73, 0x69, 0x6F, 0x6E, 0x01]

/-- The bytes of an archive with one root. -/
def writeCar (roots : List (List UInt8)) (blocks : List (Block (List UInt8))) : List UInt8 :=
  match roots with
  | [root] => header root ++ blocks.flatMap blockSection
  | _ => []

/-- A block out of the content of a section. -/
def readBlock (content : List UInt8) : Option (Block (List UInt8)) :=
  if content.take 4 = [0x01, 0x55, 0x12, 0x20] ∧ 36 ≤ content.length then
    some ⟨(content.take 36).drop 4, content.drop 36⟩
  else none

/-- The sections of an archive. Each has at least one byte. -/
def readSections : ℕ → List UInt8 → Option (List (Block (List UInt8)))
  | _, [] => some []
  | 0, _ :: _ => none
  | fuel + 1, b :: bytes =>
    match readVarint (b :: bytes) with
    | none => none
    | some (n, rest) =>
      if rest.length < n then none
      else do
        let block ← readBlock (rest.take n)
        let blocks ← readSections fuel (rest.drop n)
        some (block :: blocks)

/-- `CarReader.fromBytes(bytes)` on archives of this kind. -/
def readCar (bytes : List UInt8) : Option (CarContents (List UInt8)) := do
  let root := ((bytes.take 50).drop 18)
  if bytes.take 59 = header root then
    let blocks ← readSections bytes.length (bytes.drop 59)
    some ⟨[root], blocks⟩
  else none

/-- The library on archives of this kind: an identifier is its digest. -/
def carV1 : CarLibrary where
  Cid := List UInt8
  decEq := inferInstance
  createV1 := id
  parse := parseCid
  toString := cidText
  write := writeCar
  fromBytes := readCar

theorem readBlock_content {block : Block (List UInt8)} (h : block.cid.length = 32) :
    readBlock (cidBytes block.cid ++ block.bytes) = some block := by
  have hlen : (cidBytes block.cid).length = 36 := by
    rw [cidBytes, List.length_append, h]
    rfl
  have htake : (cidBytes block.cid ++ block.bytes).take 36 = cidBytes block.cid :=
    List.take_left' hlen
  have hdrop : (cidBytes block.cid ++ block.bytes).drop 36 = block.bytes := List.drop_left' hlen
  have hstarts : (cidBytes block.cid ++ block.bytes).take 4 = [0x01, 0x55, 0x12, 0x20] := rfl
  have hcid : (cidBytes block.cid).drop 4 = block.cid := rfl
  rw [readBlock, if_pos ⟨hstarts, by rw [List.length_append]; omega⟩, htake, hdrop, hcid]

/-- The sections of an archive are read back. -/
theorem readSections_write {blocks : List (Block (List UInt8))}
    (h : ∀ block ∈ blocks, block.cid.length = 32) {fuel : ℕ}
    (hfuel : (blocks.flatMap blockSection).length ≤ fuel) :
    readSections fuel (blocks.flatMap blockSection) = some blocks := by
  induction blocks generalizing fuel with
  | nil =>
    cases fuel <;> rfl
  | cons block blocks ih =>
    rw [List.flatMap_cons, blockSection, List.append_assoc] at hfuel ⊢
    have hread := readVarint_varint (cidBytes block.cid ++ block.bytes).length
      ((cidBytes block.cid ++ block.bytes) ++ blocks.flatMap blockSection)
    have hpos : 0 < (varint (cidBytes block.cid ++ block.bytes).length).length := by
      rw [varint]
      split_ifs <;> simp
    cases hbytes : varint (cidBytes block.cid ++ block.bytes).length ++
        ((cidBytes block.cid ++ block.bytes) ++ blocks.flatMap blockSection) with
    | nil =>
      rw [List.append_eq_nil_iff] at hbytes
      rw [hbytes.1] at hpos
      exact absurd hpos (lt_irrefl _)
    | cons b rest =>
      rw [hbytes] at hread
      have hlen := congrArg List.length hbytes
      rw [hbytes] at hfuel
      cases fuel with
      | zero =>
        rw [List.length_cons] at hfuel
        omega
      | succ fuel =>
        rw [readSections, hread]
        dsimp only
        have hrest : (blocks.flatMap blockSection).length ≤ fuel := by
          simp only [List.length_append, List.length_cons] at hlen hfuel hpos
          omega
        rw [if_neg (by rw [List.length_append]; omega), List.take_left, List.drop_left,
          readBlock_content (h block (by simp)), ih (fun c hc => h c (by simp [hc])) hrest]
        rfl

theorem length_header {root : List UInt8} (h : root.length = 32) : (header root).length = 59 := by
  simp only [header, cidBytes, List.length_append, h]
  rfl

/-- An archive is read back. -/
theorem readCar_write {root : List UInt8} (hroot : root.length = 32)
    {blocks : List (Block (List UInt8))} (h : ∀ block ∈ blocks, block.cid.length = 32) :
    readCar (writeCar [root] blocks) = some ⟨[root], blocks⟩ := by
  have hheader := length_header hroot
  have htake : (header root ++ blocks.flatMap blockSection).take 59 = header root :=
    List.take_left' hheader
  have hdrop : (header root ++ blocks.flatMap blockSection).drop 59 = blocks.flatMap blockSection :=
    List.drop_left' hheader
  have hcid : ((header root ++ blocks.flatMap blockSection).take 50).drop 18 = root := by
    have hafter : (header root ++ blocks.flatMap blockSection).drop 18 =
        root ++ ([0x67, 0x76, 0x65, 0x72, 0x73, 0x69, 0x6F, 0x6E, 0x01] ++
          blocks.flatMap blockSection) := by
      simp [header, cidBytes]
    rw [List.drop_take, hafter]
    exact List.take_left' hroot
  unfold readCar writeCar
  dsimp only
  rw [hcid, htake, if_pos rfl, hdrop, readSections_write h (by rw [List.length_append]; omega)]
  rfl

theorem length_varint_le {n : ℕ} : ∀ k, n < 128 ^ k → (varint n).length ≤ max k 1
  | 0, h => by
    rw [pow_zero, Nat.lt_one_iff] at h
    subst h
    rw [varint]
    decide
  | k + 1, h => by
    rw [varint]
    split_ifs with hn
    · exact le_max_right _ _
    · have hlt : n / 128 < 128 ^ k := by
        apply Nat.div_lt_of_lt_mul
        rwa [pow_succ, Nat.mul_comm] at h
      have hrest := length_varint_le k hlt
      have hk : 0 < k := by
        by_contra hzero
        rw [Nat.eq_zero_of_not_pos hzero, zero_add, pow_one] at h
        exact hn h
      rw [List.length_cons]
      omega

/-- The length of a section. -/
theorem length_blockSection {block : Block (List UInt8)} (hcid : block.cid.length = 32)
    (h : block.bytes.length < 2 ^ 32) : (blockSection block).length ≤ block.bytes.length + 46 := by
  have hlen : (cidBytes block.cid ++ block.bytes).length = block.bytes.length + 36 := by
    rw [cidBytes, List.length_append, List.length_append, hcid]
    exact Nat.add_comm _ _
  have hvarint := length_varint_le (n := block.bytes.length + 36) 5 (by norm_num; omega)
  rw [blockSection, List.length_append, hlen]
  omega

theorem plainWithin_cidText (digest : List UInt8) : PlainWithin 64 (cidText digest) := by
  have hunits : ∀ d, d < 32 → isPlainUnit (base32Unit d) = true := by decide
  refine ⟨fun u hu => ?_, ?_⟩
  · rcases List.mem_cons.mp hu with rfl | hu
    · rfl
    · obtain ⟨d, hd, rfl⟩ := List.mem_map.mp hu
      exact hunits d (lt_of_mem_fixedDigits (by norm_num) hd)
  · rw [cidText, List.length_cons, List.length_map, length_fixedDigits]
    norm_num

/-- The length of an archive. -/
theorem length_writeCar {root : List UInt8} (hroot : root.length = 32)
    {blocks : List (Block (List UInt8))}
    (h : ∀ block ∈ blocks, block.cid.length = 32 ∧ block.bytes.length < 2 ^ 32) :
    (writeCar [root] blocks).length ≤
      100 + (blocks.map fun block => block.bytes.length + 46).sum := by
  have hsections : (blocks.flatMap blockSection).length ≤
      (blocks.map fun block => block.bytes.length + 46).sum := by
    rw [List.length_flatMap]
    apply List.sum_le_sum
    intro block hblock
    exact length_blockSection (h block hblock).1 (h block hblock).2
  rw [writeCar, List.length_append, length_header hroot]
  omega

theorem parse_carV1 (text : JsString) : carV1.parse text = parseCid text := rfl

theorem created_carV1 {cid : List UInt8} (h : carV1.Created cid) : cid.length = 32 := by
  obtain ⟨digest, hdigest, rfl⟩ := h
  exact hdigest

/-- The library reads what it writes. -/
theorem carV1_lawful : carV1.Lawful where
  createV1_injective _ _ _ _ h := h
  parse_toString _ h := (parse_carV1 _).trans (parse_cidText (created_carV1 h))
  toString_plain _ _ := plainWithin_cidText _
  fromBytes_write _ _ hroot hblocks :=
    readCar_write (created_carV1 hroot) fun block hblock => created_carV1 (hblocks block hblock)
  write_ne_nil _ _ h := List.cons_ne_nil _ _ h
  length_write _ _ hroot hblocks :=
    length_writeCar (created_carV1 hroot) fun block hblock =>
      ⟨created_carV1 (hblocks block hblock).1, (hblocks block hblock).2⟩

end OpenRisk.Filecoin
