import OpenRisk.Crypto.Sha256
import OpenRisk.Sdk.CanonicalSize
import OpenRisk.Sdk.Content

/-!
# What a domain-separated commitment determines

A commitment is the hash of a fixed text followed by a canonical payload. Two payloads with the
same names and one commitment agree field by field, or the hash has a collision.

Results:
* `fields_eq_or_collides`: the fields of two payloads with one commitment.
* `PayloadEq.string_eq`: plain texts that canonicalize alike are equal.
-/

namespace OpenRisk.Sdk

open Text

variable {N : Normalization} {S : Hash}

theorem scalar_canonicalizeValue (N : Normalization) (v : JsValue) :
    Scalar (codePoints (canonicalizeValue N v)) := by
  rw [canonicalizeValue_eq_print]
  exact Json.scalar_print _ (integral_canonicalJson N v)

/-- Objects with the same names in the same order are equal field by field. -/
theorem forall₂_of_payloadEq {es fs : List (JsString × JsValue)}
    (hnames : es.map Prod.fst = fs.map Prod.fst) (hnodup : (fs.map Prod.fst).Nodup)
    (h : PayloadEq N (.object es) (.object fs)) :
    List.Forall₂ (fun e f => PayloadEq N e.2 f.2) es fs := by
  have hlength : es.length = fs.length := by
    simpa using congrArg List.length hnames
  rw [List.forall₂_iff_get]
  refine ⟨hlength, fun i hi hj => ?_⟩
  have hname : es[i].1 = fs[i].1 := by
    have hmap := congrArg (fun l => l[i]?) hnames
    simpa [hi, hj] using hmap
  have hes := lookup_of_mem (hnames ▸ hnodup) (show (es[i].1, es[i].2) ∈ es from List.getElem_mem hi)
  have hfs := lookup_of_mem hnodup (show (fs[i].1, fs[i].2) ∈ fs from List.getElem_mem hj)
  rw [← hname] at hfs
  exact payloadEq_lookup hnodup h hes hfs

/-- Payloads with one commitment. -/
theorem payloadEq_or_collides {domain : JsString} (hdomain : ∀ u ∈ domain, u.toNat < 0x80)
    {a b : JsValue} (ha : a.UniqueKeys) {s t : JsString} (hs : canonicalizePayload N a = .ok s)
    (ht : canonicalizePayload N b = .ok t)
    (hhash : sha256Hex S (domain ++ s) = sha256Hex S (domain ++ t)) :
    PayloadEq N a b ∨ S.Collides (utf8Encode (domain ++ canonicalizeValue N a))
      (utf8Encode (domain ++ canonicalizeValue N b)) := by
  obtain ⟨-, -, hca, -, -, rfl⟩ := (canonicalizePayload_eq_ok_iff _ _).mp hs
  obtain ⟨-, -, hcb, -, -, rfl⟩ := (canonicalizePayload_eq_ok_iff _ _).mp ht
  refine (utf8Encode_eq_or_collides hhash).imp_left fun hbytes => ?_
  have hscalar : ∀ v, Scalar (codePoints (domain ++ canonicalizeValue N v)) := by
    intro v
    rw [codePoints_append_ascii hdomain, scalar_append]
    exact ⟨scalar_map_unitPoint hdomain, scalar_canonicalizeValue N v⟩
  have htext := List.append_cancel_left (utf8Encode_injective (hscalar a) (hscalar b) hbytes)
  rwa [canonicalizeValue_eq_iff, canonicalJson_eq_iff hca hcb ha] at htext

/-- Plain texts are their own NFC form. -/
theorem PayloadEq.string_eq {m n : ℕ} {s t : JsString} (hs : PlainWithin m s) (ht : PlainWithin n t)
    (h : PayloadEq N (.string s) (.string t)) : s = t := by
  rw [PayloadEq, normalizeNfc_ascii (ascii_of_plain hs.1), normalizeNfc_ascii (ascii_of_plain ht.1)]
    at h
  exact h

end OpenRisk.Sdk
