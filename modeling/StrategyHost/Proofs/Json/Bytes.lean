import StrategyHost.Json.Bytes
import StrategyHost.Proofs.Text.Lossy
import StrategyHost.Proofs.Json.Shape

/-! # Documents in bytes

The bytes of a text are read as the text is (`decodeBytes_toUTF8`). What stands for bytes that are no text makes no difference to the shape
of a document or to a reader that skips it (`readBytes_shape`, `skip_readBytes`). -/

namespace StrategyHost.Json

theorem agreedText_self (s : Option String) : agreedText s s = s := if_pos rfl

mutual

theorem Doc.agreed_self : ∀ d : Doc, d.agreed d = d
  | .str s => by rw [Doc.agreed, agreedText_self]
  | .arr level items stop => by rw [Doc.agreed, agreedItems_self items]
  | .obj level fields stop => by rw [Doc.agreed, agreedFields_self fields]
  | .null | .bool _ | .num _ | .broken _ => rfl

theorem agreedItems_self : ∀ ds : List Doc, agreedItems ds ds = ds
  | [] => rfl
  | d :: ds => by rw [agreedItems, d.agreed_self, agreedItems_self ds]

theorem agreedFields_self : ∀ fs : List (Option String × Doc), agreedFields fs fs = fs
  | [] => rfl
  | (k, d) :: fs => by rw [agreedFields, agreedText_self, d.agreed_self, agreedFields_self fs]

end

theorem readBytes_toUTF8 (text : String) : readBytes text.toUTF8.data.toList = readText text := by
  simp only [readBytes, readMarked, Text.decodeFrom_toUTF8, String.ofList_toList, Doc.agreed_self]

theorem decodeBytes_toUTF8 {α : Type} (d : Decoder α) (text : String) : decodeBytes d text.toUTF8.data.toList = decodeText d text := by
  rw [decodeBytes, readBytes_toUTF8, decodeText]

/-! ### Bytes that are no text -/

mutual

theorem Doc.shape_agreed : ∀ {d e : Doc}, d.shape = e.shape → (d.agreed e).shape = d.shape
  | .str _, .str _, _ => rfl
  | .arr level ds stop, .arr _ es _, same => by
    rw [Doc.shape, Doc.shape] at same
    injection same with _ same _
    rw [Doc.agreed, Doc.shape, shape_agreedItems same, Doc.shape]
  | .obj level fs stop, .obj _ gs _, same => by
    rw [Doc.shape, Doc.shape] at same
    injection same with _ same _
    rw [Doc.agreed, Doc.shape, shape_agreedFields same, Doc.shape]
  | .str _, .null, same | .str _, .bool _, same | .str _, .num _, same | .str _, .arr .., same | .str _, .obj .., same
  | .str _, .broken _, same => nomatch same
  | .null, _, _ | .bool _, _, _ | .num _, _, _ | .broken _, _, _ => rfl

theorem shape_agreedItems : ∀ {ds es : List Doc}, itemsShape ds = itemsShape es → itemsShape (agreedItems ds es) = itemsShape ds
  | [], _, _ => rfl
  | d :: ds, e :: es, same => by
    injection same with first rest
    rw [agreedItems, itemsShape, Doc.shape_agreed first, shape_agreedItems rest, itemsShape]

theorem shape_agreedFields : ∀ {fs gs : List (Option String × Doc)}, fieldsShape fs = fieldsShape gs →
    fieldsShape (agreedFields fs gs) = fieldsShape fs
  | [], _, _ => rfl
  | (_, d) :: fs, (_, e) :: gs, same => by
    injection same with first rest
    injection first with _ first
    rw [agreedFields, fieldsShape, Doc.shape_agreed first, shape_agreedFields rest, fieldsShape]

end

section
variable {mark other : Char}

theorem beginChar_veil (alike : veil mark = veil other) (b : UInt8) :
    (∃ p, Text.beginChar mark b = .ok p ∧ Text.beginChar other b = .ok p) ∨
      ∃ c d, Text.beginChar mark b = .error c ∧ Text.beginChar other b = .error d ∧ veil c = veil d := by
  unfold Text.beginChar
  split
  · exact .inr ⟨_, _, rfl, rfl, rfl⟩
  · split
    · exact .inl ⟨_, rfl, rfl⟩
    · exact .inr ⟨_, _, rfl, rfl, alike⟩

/-- Two marks that are veiled alike stand in the same places. -/
theorem decodeFrom_veil (alike : veil mark = veil other) (state : Option Text.Partial) (bytes : List UInt8) :
    (Text.decodeFrom mark state bytes).map veil = (Text.decodeFrom other state bytes).map veil := by
  induction bytes generalizing state with
  | nil =>
    cases state with
    | none => rfl
    | some p => exact congrArg (fun c => [c]) alike
  | cons b bs ih =>
    cases state with
    | none =>
      rw [Text.decodeFrom, Text.decodeFrom]
      obtain ⟨p, here, there⟩ | ⟨c, d, here, there, same⟩ := beginChar_veil alike b
      · simp only [here, there, ih]
      · simp only [here, there, List.map_cons, same, ih]
    | some p =>
      rw [Text.decodeFrom, Text.decodeFrom]
      dsimp only
      split
      · split
        · rw [List.map_cons, List.map_cons, ih]
        · exact ih _
      · obtain ⟨p, here, there⟩ | ⟨c, d, here, there, same⟩ := beginChar_veil alike b
        · simp only [here, there, List.map_cons, alike, ih]
        · simp only [here, there, List.map_cons, alike, same, ih]

end

theorem veil_of_le {c : Char} (h : 128 ≤ c.toNat) : veil c = '\u0080' := if_neg (Nat.not_lt.2 h)

theorem readMarked_alike {mark other : Char} (alike : veil mark = veil other) (bytes : List UInt8) :
    (readMarked mark bytes).1.shape = (readMarked other bytes).1.shape ∧ (readMarked mark bytes).2 = (readMarked other bytes).2 := by
  have here := readText_veil (Text.decodeFrom mark none bytes)
  have there := readText_veil (Text.decodeFrom other none bytes)
  rw [decodeFrom_veil alike] at here
  exact ⟨here.1.symm.trans there.1, here.2.symm.trans there.2⟩

/-- Whichever character beyond ASCII stands for bytes that are no text, the document is the same but for its texts. -/
theorem readBytes_shape (bytes : List UInt8) {mark : Char} (beyond : 128 ≤ mark.toNat) :
    (readBytes bytes).1.shape = (readMarked mark bytes).1.shape ∧ (readBytes bytes).2 = (readMarked mark bytes).2 := by
  have first := readMarked_alike (show veil '\u0080' = veil mark from (veil_of_le beyond).symm) bytes
  have both := readMarked_alike (show veil '\u0080' = veil '\u0081' from rfl) bytes
  exact ⟨(Doc.shape_agreed both.1).trans first.1, first.2⟩

/-- Bytes that are no text do not change what a field that is skipped is refused for. -/
theorem skip_readBytes (bytes : List UInt8) {mark : Char} (beyond : 128 ≤ mark.toNat) :
    skip (readBytes bytes).1 = skip (readMarked mark bytes).1 := by
  rw [← skip_shape, (readBytes_shape bytes beyond).1, skip_shape]

end StrategyHost.Json
