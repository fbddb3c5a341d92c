import StrategyHost.Digest.Sha256

/-! # Bytes and digests that tell texts apart

`utf8Bytes` and `Sha256.hex` lose nothing of a text or of a digest. What SHA-256 itself is trusted for is said by
`Sha256.CollisionFree`: on the byte strings at hand it takes no two to one digest. -/

namespace StrategyHost

theorem byteArray_toList_loop (b : ByteArray) (i : Nat) (r : List UInt8) :
    ByteArray.toList.loop b i r = r.reverse ++ b.data.toList.drop i := by
  have hlen : b.data.toList.length = b.size := rfl
  fun_induction ByteArray.toList.loop b i r with
  | case1 i r hi ih =>
    have hget : b.get! i = b.data.toList[i] := getElem!_pos b.data i hi
    rw [ih, List.drop_eq_getElem_cons (by omega : i < b.data.toList.length), hget]
    simp
  | case2 i r hi => rw [List.drop_eq_nil_of_le (by omega), List.append_nil]

theorem byteArray_toList (b : ByteArray) : b.toList = b.data.toList := by
  rw [ByteArray.toList, byteArray_toList_loop]
  simp

theorem utf8Bytes_append (s t : String) : utf8Bytes (s ++ t) = utf8Bytes s ++ utf8Bytes t := by
  simp [utf8Bytes, byteArray_toList]

theorem utf8Bytes_injective {s t : String} (h : utf8Bytes s = utf8Bytes t) : s = t := by
  rw [utf8Bytes, utf8Bytes, byteArray_toList, byteArray_toList, Array.toList_inj] at h
  exact String.toByteArray_inj.1 (ByteArray.ext h)

namespace Sha256

/-- No two of the byte strings have one digest. -/
def CollisionFree (messages : List (List UInt8)) : Prop :=
  ∀ x ∈ messages, ∀ y ∈ messages, digest x = digest y → x = y

instance (messages : List (List UInt8)) : Decidable (CollisionFree messages) :=
  inferInstanceAs (Decidable (∀ x ∈ messages, ∀ y ∈ messages, _))

theorem digitChar_injective : ∀ m < 16, ∀ n < 16, Nat.digitChar m = Nat.digitChar n → m = n := by decide

theorem hexByte_injective {a b : UInt8} (h : hexByte a = hexByte b) : a = b := by
  have ha := a.toNat_lt
  have hb := b.toNat_lt
  simp only [hexByte, List.cons.injEq, and_true] at h
  have high := digitChar_injective _ (by omega) _ (by omega) h.1
  have low := digitChar_injective _ (by omega) _ (by omega) h.2
  exact UInt8.toNat_inj.1 (by omega)

theorem flatMap_hexByte_injective {as bs : List UInt8} (h : as.flatMap hexByte = bs.flatMap hexByte) : as = bs := by
  induction as generalizing bs with
  | nil => cases bs with
    | nil => rfl
    | cons b bs => simp [hexByte] at h
  | cons a as ih => cases bs with
    | nil => simp [hexByte] at h
    | cons b bs =>
      rw [List.flatMap_cons, List.flatMap_cons] at h
      obtain ⟨hd, tl⟩ := List.append_inj h rfl
      rw [hexByte_injective hd, ih tl]

theorem hex_inj {x y : List UInt8} : hex x = hex y ↔ digest x = digest y :=
  ⟨fun h => flatMap_hexByte_injective (String.ofList_injective h), fun h => by rw [hex, h, ← hex]⟩

theorem CollisionFree.eq_of_hex {messages : List (List UInt8)} (free : CollisionFree messages) {x y : List UInt8}
    (hx : x ∈ messages) (hy : y ∈ messages) (h : hex x = hex y) : x = y :=
  free x hx y hy (hex_inj.1 h)

theorem CollisionFree.mono {small large : List (List UInt8)} (h : ∀ x ∈ small, x ∈ large)
    (free : CollisionFree large) : CollisionFree small :=
  fun x hx y hy => free x (h x hx) y (h y hy)

theorem collisionFree_pair {x y : List UInt8} (h : digest x ≠ digest y) : CollisionFree [x, y] := by
  intro a ha b hb same
  simp only [List.mem_cons, List.not_mem_nil, or_false] at ha hb
  rcases ha with rfl | rfl <;> rcases hb with rfl | rfl
  · rfl
  · exact absurd same h
  · exact absurd same.symm h
  · rfl

end Sha256

end StrategyHost
