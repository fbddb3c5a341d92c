import Mathlib.Data.Finset.Card
import Mathlib.Data.Finset.Dedup
import StrategyHost.Proofs.Digest.Collision
import StrategyHost.Sanitizer.Memo

/-! # The memo is invisible and bounded

`Sanitizer.analyzeEach` analyses sources one after another, each with a choice of the entry that makes room for its verdict.
`Recalls` is what holds of a sanitizer after some sources: every entry is the verdict on one of them, and there are as many
entries as the sources have hashes, as far as the capacity allows. Main statement: `analyzeEach_eq`, the answers are those of
fresh sanitizers and the size of the memo follows from the number of distinct sources, so neither depends on what was evicted.

The size is the work. A source whose verdict was evicted comes back as a new entry and not as a new source, and only a memo
that is full can lack it (`Recalls.length_lt`). -/

namespace StrategyHost.Sanitizer
open Sha256 (CollisionFree)
variable {read : Wasm.ComponentReader} {p : Policy} {s : Sanitizer} {seen : List String} {text : String}

/-- The verdicts on sources that are analysed one after another. With each comes the place of the entry that makes room if
one has to. -/
def analyzeEach (s : Sanitizer) : List (Nat × String) → List Verdict × Sanitizer
  | [] => ([], s)
  | (victim, text) :: rest =>
    let (v, s) := s.analyzeEvicting victim text
    let (vs, s) := s.analyzeEach rest
    (v :: vs, s)

theorem analyzeEach_cons (s : Sanitizer) (r : Nat × String) (rest : List (Nat × String)) :
    s.analyzeEach (r :: rest) = ((s.analyzeEvicting r.1 r.2).1 :: ((s.analyzeEvicting r.1 r.2).2.analyzeEach rest).1,
      ((s.analyzeEvicting r.1 r.2).2.analyzeEach rest).2) := rfl

def hashes (texts : List String) : Finset String := (texts.map Sha256.ofText).toFinset

theorem mem_hashes {h : String} {texts : List String} : h ∈ hashes texts ↔ ∃ t ∈ texts, Sha256.ofText t = h := by
  simp [hashes]

theorem hashes_append : hashes (seen ++ [text]) = insert (Sha256.ofText text) (hashes seen) := by
  ext h
  simp [hashes]

theorem card_hashes {texts : List String} (free : CollisionFree (texts.map utf8Bytes)) :
    (hashes texts).card = texts.dedup.length := by
  have injective : Set.InjOn Sha256.ofText texts.toFinset := by
    intro a ha b hb same
    simp only [List.coe_toFinset, Set.mem_ofPred_eq] at ha hb
    exact utf8Bytes_injective (free.eq_of_hex (List.mem_map_of_mem ha) (List.mem_map_of_mem hb) same)
  have image : hashes texts = texts.toFinset.image Sha256.ofText := by
    ext h
    simp [hashes]
  rw [image, Finset.card_image_of_injOn injective, List.card_toFinset]

/-! ### One source -/

/-- What holds of a sanitizer that has analysed `seen`. -/
structure Recalls (read : Wasm.ComponentReader) (p : Policy) (seen : List String) (s : Sanitizer) : Prop where
  reader : s.read = read
  policy : s.policy = p
  judged : ∀ e ∈ s.memo, ∃ t ∈ seen, e = (Sha256.ofText t, judge read p t)
  nodup : (s.memo.map Prod.fst).Nodup
  length : s.memo.length = min p.memoCapacity (hashes seen).card

theorem recalls_new (read : Wasm.ComponentReader) (p : Policy) : Recalls read p [] (new read p) :=
  ⟨rfl, rfl, by simp [new], by simp [new], by simp [new, hashes]⟩

theorem remember_eq (room : s.policy.memoCapacity ≠ 0) (fits : s.memo.length ≤ s.policy.memoCapacity) (victim : Nat)
    (hash : String) (v : Verdict) : ∃ kept, kept.Sublist s.memo ∧
      kept.length = min s.memo.length (s.policy.memoCapacity - 1) ∧
      s.remember victim hash v = { s with memo := kept ++ [(hash, v)] } := by
  rw [remember, if_neg room]
  split
  case isTrue full =>
    have place : victim % s.memo.length < s.memo.length := Nat.mod_lt _ (by omega)
    refine ⟨_, List.eraseIdx_sublist _ _, ?_, rfl⟩
    rw [List.length_eraseIdx, if_pos place]
    omega
  case isFalse => exact ⟨s.memo, .refl _, by omega, rfl⟩

namespace Recalls

theorem mem_hashes (recalls : Recalls read p seen s) {h : String} (mem : h ∈ s.memo.map Prod.fst) : h ∈ hashes seen := by
  obtain ⟨e, he, rfl⟩ := List.mem_map.1 mem
  obtain ⟨t, ht, rfl⟩ := recalls.judged e he
  exact Sanitizer.mem_hashes.2 ⟨t, ht, rfl⟩

/-- A memo that lacks the hash of a source that it has seen holds fewer entries than there were hashes. -/
theorem length_lt (recalls : Recalls read p seen s) (old : Sha256.ofText text ∈ hashes seen)
    (absent : Sha256.ofText text ∉ s.memo.map Prod.fst) : s.memo.length < (hashes seen).card := by
  have fewer : (s.memo.map Prod.fst).toFinset ⊂ hashes seen :=
    (Finset.ssubset_iff_of_subset fun h mem => recalls.mem_hashes (List.mem_toFinset.1 mem)).2
      ⟨_, old, fun mem => absent (List.mem_toFinset.1 mem)⟩
  have lt := Finset.card_lt_card fewer
  rwa [List.toFinset_card_of_nodup recalls.nodup, List.length_map] at lt

theorem judged_of_lookup (recalls : Recalls read p seen s) {v : Verdict} (found : s.memo.lookup (Sha256.ofText text) = some v) :
    ∃ t ∈ seen, Sha256.ofText t = Sha256.ofText text ∧ v = judge read p t := by
  obtain ⟨before, after, memo, -⟩ := List.lookup_eq_some_iff.1 found
  obtain ⟨t, ht, same⟩ := recalls.judged (Sha256.ofText text, v) (by simp [memo])
  exact ⟨t, ht, (congrArg Prod.fst same).symm, congrArg Prod.snd same⟩

theorem absent_of_lookup (missing : s.memo.lookup (Sha256.ofText text) = none) :
    Sha256.ofText text ∉ s.memo.map Prod.fst := by
  intro mem
  obtain ⟨e, he, same⟩ := List.mem_map.1 mem
  have differ := List.lookup_eq_none_iff.1 missing e he
  exact absurd same.symm (by simpa using differ)

theorem answer (recalls : Recalls read p seen s) (only : ∀ t ∈ seen, Sha256.ofText t = Sha256.ofText text → t = text)
    (victim : Nat) : (s.analyzeEvicting victim text).1 = judge read p text := by
  rw [analyzeEvicting]
  cases found : s.memo.lookup (Sha256.ofText text) with
  | some v =>
    obtain ⟨t, ht, same, rfl⟩ := recalls.judged_of_lookup found
    rw [only t ht same]
  | none => exact congrArg₂ (judge · · text) recalls.reader recalls.policy

theorem seen_again (recalls : Recalls read p seen s) (old : Sha256.ofText text ∈ hashes seen) : Recalls read p (seen ++ [text]) s where
  reader := recalls.reader
  policy := recalls.policy
  judged e he := by
    obtain ⟨t, ht, same⟩ := recalls.judged e he
    exact ⟨t, List.mem_append_left _ ht, same⟩
  nodup := recalls.nodup
  length := by rw [hashes_append, Finset.insert_eq_self.2 old, recalls.length]

theorem remembered (recalls : Recalls read p seen s) (absent : Sha256.ofText text ∉ s.memo.map Prod.fst) (victim : Nat) :
    Recalls read p (seen ++ [text]) (s.remember victim (Sha256.ofText text) (judge read p text)) := by
  obtain ⟨rfl, rfl, judged, nodup, length⟩ := recalls
  by_cases room : s.policy.memoCapacity = 0
  case pos =>
    rw [remember, if_pos room]
    refine ⟨rfl, rfl, fun e he => ?_, nodup, by rw [length]; omega⟩
    obtain ⟨t, ht, same⟩ := judged e he
    exact ⟨t, List.mem_append_left _ ht, same⟩
  obtain ⟨kept, sub, size, eq⟩ := remember_eq room (by omega) victim (Sha256.ofText text) (judge s.read s.policy text)
  have counted : (hashes (seen ++ [text])).card =
      if Sha256.ofText text ∈ hashes seen then (hashes seen).card else (hashes seen).card + 1 := by
    rw [hashes_append, Finset.card_insert_eq_ite]
  rw [eq]
  refine ⟨rfl, rfl, fun e he => ?_, ?_, ?_⟩
  · rcases List.mem_append.1 he with old | new
    · obtain ⟨t, ht, same⟩ := judged e (sub.subset old)
      exact ⟨t, List.mem_append_left _ ht, same⟩
    · exact ⟨text, by simp, List.mem_singleton.1 new⟩
  · have keys : (kept.map Prod.fst).Nodup := nodup.sublist (sub.map _)
    have fresh : Sha256.ofText text ∉ kept.map Prod.fst := fun mem => absent ((sub.map _).subset mem)
    simp only [List.map_append, List.map_cons, List.map_nil]
    exact List.nodup_append.2 ⟨keys, by simp, fun a ha b hb same => fresh (by simp_all)⟩
  · have lacking : Sha256.ofText text ∈ hashes seen → s.memo.length < (hashes seen).card :=
      fun old => length_lt ⟨rfl, rfl, judged, nodup, length⟩ old absent
    rw [counted, List.length_append, List.length_singleton]
    split
    case isTrue old =>
      have := lacking old
      omega
    case isFalse => omega

theorem analyzeEvicting (recalls : Recalls read p seen s) (victim : Nat) (text : String) :
    Recalls read p (seen ++ [text]) (s.analyzeEvicting victim text).2 := by
  rw [Sanitizer.analyzeEvicting]
  cases found : s.memo.lookup (Sha256.ofText text) with
  | some v =>
    obtain ⟨t, ht, same, -⟩ := recalls.judged_of_lookup found
    exact recalls.seen_again (Sanitizer.mem_hashes.2 ⟨t, ht, same⟩)
  | none =>
    obtain rfl := recalls.reader
    obtain rfl := recalls.policy
    exact recalls.remembered (absent_of_lookup found) victim

/-! ### A run of sources -/

theorem analyzeEach (recalls : Recalls read p seen s) (requests : List (Nat × String)) :
    Recalls read p (seen ++ requests.map Prod.snd) (s.analyzeEach requests).2 := by
  induction requests generalizing s seen with
  | nil => simpa [Sanitizer.analyzeEach] using recalls
  | cons r rest ih =>
    have later := ih (recalls.analyzeEvicting r.1 r.2)
    rwa [List.append_assoc] at later

theorem answers (recalls : Recalls read p seen s) (requests : List (Nat × String))
    (free : CollisionFree ((seen ++ requests.map Prod.snd).map utf8Bytes)) :
    (s.analyzeEach requests).1 = requests.map fun r => judge read p r.2 := by
  induction requests generalizing s seen with
  | nil => rfl
  | cons r rest ih =>
    have only : ∀ t ∈ seen, Sha256.ofText t = Sha256.ofText r.2 → t = r.2 := fun t ht same =>
      utf8Bytes_injective (free.eq_of_hex (List.mem_map_of_mem (List.mem_append_left _ ht))
        (List.mem_map_of_mem (by simp)) same)
    have later := ih (recalls.analyzeEvicting r.1 r.2) (by rwa [List.append_assoc])
    rw [analyzeEach_cons, List.map_cons, ← later, recalls.answer only r.1]

end Recalls

theorem analyze_new (read : Wasm.ComponentReader) (p : Policy) (text : String) : ((new read p).analyze text).1 = judge read p text :=
  (recalls_new read p).answer (fun _ ht => absurd ht List.not_mem_nil) 0

/-- However sources repeat and whichever entries make room, each answer is the one of a fresh sanitizer, and the memo holds
as many verdicts as there were distinct sources, as far as its capacity allows. -/
theorem analyzeEach_eq (read : Wasm.ComponentReader) (p : Policy) (requests : List (Nat × String))
    (free : CollisionFree (requests.map fun r => utf8Bytes r.2)) :
    ((new read p).analyzeEach requests).1 = requests.map (fun r => ((new read p).analyze r.2).1) ∧
      ((new read p).analyzeEach requests).2.memoSize = min p.memoCapacity (requests.map Prod.snd).dedup.length := by
  have free' : CollisionFree ((requests.map Prod.snd).map utf8Bytes) := by rwa [List.map_map]
  have recalls := (recalls_new read p).analyzeEach requests
  rw [List.nil_append] at recalls
  constructor
  · rw [(recalls_new read p).answers requests (by rwa [List.nil_append])]
    exact List.map_congr_left fun r _ => (analyze_new read p r.2).symm
  · rw [memoSize, recalls.length, card_hashes free']

/-- A memo of one entry, and a source that comes back after it made room. -/
theorem analyzeEach_eq_evicted :
    let read := Wasm.plainComponent
    let p := { Policy.standard with memoCapacity := 1 }
    let requests := [(0, "(module)"), (3, "(module (func))"), (1, "(module)")]
    CollisionFree (requests.map fun r => utf8Bytes r.2) ∧
      ((new read p).analyzeEach requests).1 = requests.map (fun r => ((new read p).analyze r.2).1) ∧
      ((new read p).analyzeEach requests).2.memoSize = 1 := by
  intro read p requests
  have free : CollisionFree (requests.map fun r => utf8Bytes r.2) := by decide +kernel
  exact ⟨free, analyzeEach_eq read p requests free⟩

end StrategyHost.Sanitizer
