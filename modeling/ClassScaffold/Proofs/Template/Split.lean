import ClassScaffold.Proofs.Template.Cut
/-! The one way in which a source is made of texts and slots. A slot is taken where the first one starts, and the
search goes on behind it, so no slot starts inside a text, not even one that ends in a later piece. Filling
goes over these pieces, and the names of a template are the names of its slots. -/
namespace ClassScaffold
open Text (isBlank)

namespace Template

/- Slots in a source -/

structure IsSlot (lead name trail : List Char) : Prop where
  lead : ∀ c ∈ lead, isBlank c = true
  start : name.head?.any isNameStart = true
  name : ∀ c ∈ name, isNameChar c = true
  trail : ∀ c ∈ trail, isBlank c = true

def slotText (lead name trail : List Char) : List Char :=
  '\x7b' :: '\x7b' :: (lead ++ (name ++ (trail ++ ['\x7d', '\x7d'])))

def StartsSlot (s : List Char) : Prop :=
  ∃ lead name trail after, IsSlot lead name trail ∧ s = slotText lead name trail ++ after

def IsFree (content after : List Char) : Prop :=
  ∀ before rest, content = before ++ rest → rest ≠ [] → ¬ StartsSlot (rest ++ after)

/-- Pieces as they are met from the left: each slot is the first one that starts, and each text goes on up to it. -/
inductive IsLeftmost : Template → Prop
  | nil : IsLeftmost []
  | slot {lead name trail rest} (spelled : IsSlot lead.toList name.toList trail.toList) (tail : IsLeftmost rest) :
    IsLeftmost (.slot lead name trail :: rest)
  | text {content rest} (some : content ≠ "") (free : IsFree content.toList (source rest).toList)
    (whole : ∀ other, rest.head? ≠ .some (.text other)) (tail : IsLeftmost rest) : IsLeftmost (.text content :: rest)

theorem slotAtFound {s lead name trail : List Char} (found : slotAt s = some (lead, name, trail)) :
    IsSlot lead name trail ∧ ∃ after, s = slotText lead name trail ++ after := by
  unfold slotAt at found
  split at found
  · next inner =>
    dsimp only at found
    split at found
    · next c rest after named closed =>
      split at found
      · next start =>
        simp only [Option.some.injEq, Prod.mk.injEq] at found
        obtain ⟨rfl, rfl, rfl⟩ := found
        refine ⟨⟨fun c => List.mem_takeWhile_imp, ?_, fun c => List.mem_takeWhile_imp, fun c => List.mem_takeWhile_imp⟩,
          after, ?_⟩
        · simpa [named] using start
        · simp only [slotText, List.cons_append, List.append_assoc, List.nil_append, ← closed,
            List.takeWhile_append_dropWhile]
      · contradiction
    · contradiction
  · contradiction

theorem slotAtSpelled {lead name trail : List Char} (slot : IsSlot lead name trail) (after : List Char) :
    slotAt (slotText lead name trail ++ after) = some (lead, name, trail) := by
  have found := slotAtSlot slot.lead slot.start slot.name slot.trail after
  simpa [slotText] using found

theorem slotAtNone {s : List Char} : slotAt s = none ↔ ¬ StartsSlot s := by
  constructor
  · rintro none ⟨lead, name, trail, after, slot, rfl⟩
    rw [slotAtSpelled slot after] at none
    contradiction
  · intro free
    cases found : slotAt s with
    | none => rfl
    | some pieces =>
      obtain ⟨slot, after, whole⟩ := slotAtFound found
      exact absurd ⟨_, _, _, after, slot, whole⟩ free

/- Reading a source -/

theorem sourceCons (p : Piece) (t : Template) : (source (p :: t)).toList = p.source.toList ++ (source t).toList := by
  simp [source]

theorem slotSource (lead name trail : String) :
    (Piece.slot lead name trail).source.toList = slotText lead.toList name.toList trail.toList := by
  simp [Piece.source, slotText]

theorem piecesSlot {lead name trail : List Char} (slot : IsSlot lead name trail) (after : List Char) :
    piecesFrom 0 (slotText lead name trail ++ after) =
      .slot (String.ofList lead) (String.ofList name) (String.ofList trail) :: piecesFrom 0 after := by
  have readable : isReadable (.slot (String.ofList lead) (String.ofList name) (String.ofList trail)) = true := by
    simpa [isReadable, and_assoc] using ⟨slot.lead, slot.start, slot.name, slot.trail⟩
  simpa only [slotSource, String.toList_ofList] using ofSourceSlot readable after

theorem foldText {content : List Char} {t : Template} (some : content ≠ [])
    (whole : ∀ other, t.head? ≠ .some (.text other)) :
    content.foldr consText t = .text (String.ofList content) :: t := by
  induction content with
  | nil => contradiction
  | cons c rest ih =>
    rw [List.foldr_cons]
    by_cases last : rest = []
    · subst last
      cases t with
      | nil => rfl
      | cons p pieces =>
        cases p with
        | text other => exact absurd rfl (whole other)
        | slot => rfl
    · rw [ih last]
      simp only [consText]
      congr 2
      rw [← String.toList_inj]
      simp

theorem leftmostRead {t : Template} (leftmost : t.IsLeftmost) : piecesFrom 0 (source t).toList = t := by
  induction leftmost with
  | nil => rfl
  | slot spelled tail ih =>
    rw [sourceCons, slotSource, piecesSlot spelled, ih]
    simp only [String.ofList_toList]
  | @text content rest some free whole tail ih =>
    have unslotted before last (split : content.toList = before ++ last) (more : last ≠ []) :
        slotAt (last ++ (source rest).toList) = none := slotAtNone.2 (free before last split more)
    rw [sourceCons, Piece.source, piecesFree unslotted, ih, foldText (by simpa using some) whole, String.ofList_toList]

theorem consTextLeftmost {c : Char} {t : Template} (leftmost : t.IsLeftmost)
    (free : ¬ StartsSlot (c :: (source t).toList)) :
    (consText c t).IsLeftmost ∧ (source (consText c t)).toList = c :: (source t).toList := by
  have alone {content after : List Char} (inner : IsFree content after) (first : ¬ StartsSlot (c :: content ++ after)) :
      IsFree (c :: content) after := by
    rintro (_ | ⟨_, before⟩) rest same some
    · cases same
      exact first
    · exact inner before rest (List.cons.inj same).2 some
  unfold consText
  split
  · next content rest =>
    cases leftmost with
    | text some inner whole tail =>
      rw [sourceCons, Piece.source] at free
      refine ⟨.text (by simp) ?_ whole tail, by simp [sourceCons, Piece.source]⟩
      simpa using alone inner free
  · next other =>
    have inner : IsFree [] (source t).toList := fun before rest same some => by simp_all
    refine ⟨.text (by simp) ?_ (fun content head => ?_) leftmost, by simp [sourceCons, Piece.source]⟩
    · simpa using alone inner free
    · obtain ⟨rest, same⟩ := List.head?_eq_some_iff.1 head
      exact other content rest same

theorem slotShorter (lead name trail after : List Char) :
    after.length < (slotText lead name trail ++ after).length := by
  simp only [slotText, List.length_append, List.length_cons]
  omega

theorem piecesLeftmost (s : List Char) : (piecesFrom 0 s).IsLeftmost ∧ (source (piecesFrom 0 s)).toList = s := by
  induction size : s.length using Nat.strongRecOn generalizing s with
  | ind n ih =>
    by_cases starts : StartsSlot s
    · obtain ⟨lead, name, trail, after, slot, rfl⟩ := starts
      obtain ⟨leftmost, same⟩ := ih after.length (size ▸ slotShorter lead name trail after) after rfl
      rw [piecesSlot slot, sourceCons, slotSource, same]
      simp only [String.toList_ofList, and_true]
      exact .slot (by simpa using slot) leftmost
    · cases s with
      | nil => exact ⟨.nil, rfl⟩
      | cons c rest =>
        obtain ⟨leftmost, same⟩ := ih rest.length (by simp [← size]) rest rfl
        rw [piecesFrom, slotAtNone.2 starts]
        rw [← same] at starts
        have joined := consTextLeftmost leftmost starts
        rwa [same] at joined

/- Names -/

structure ListsOnce (all listed : List String) : Prop where
  same : ∀ name, name ∈ listed ↔ name ∈ all
  once : listed.Nodup
  order : listed.Pairwise fun a b => all.idxOf a < all.idxOf b

theorem idxOfFilter {p : String → Bool} {all : List String} {a b : String} (keepA : p a = true) (keepB : p b = true)
    (order : (all.filter p).idxOf a < (all.filter p).idxOf b) : all.idxOf a < all.idxOf b := by
  induction all with
  | nil => simp at order
  | cons x rest ih =>
    by_cases keep : p x = true
    · rw [List.filter_cons_of_pos keep] at order
      by_cases second : x = b
      · subst second
        rw [List.idxOf_cons_self] at order
        contradiction
      · rw [List.idxOf_cons_ne _ second] at order ⊢
        by_cases first : x = a
        · subst first
          rw [List.idxOf_cons_self]
          exact Nat.succ_pos _
        · rw [List.idxOf_cons_ne _ first] at order ⊢
          exact Nat.succ_lt_succ (ih (Nat.lt_of_succ_lt_succ order))
    · rw [List.filter_cons_of_neg keep] at order
      have apart {name : String} (kept : p name = true) : x ≠ name := fun same => keep (same ▸ kept)
      rw [List.idxOf_cons_ne _ (apart keepA), List.idxOf_cons_ne _ (apart keepB)]
      exact Nat.succ_lt_succ (ih order)

theorem eraseDupsListsOnce (all : List String) : ListsOnce all all.eraseDups := by
  induction size : all.length using Nat.strongRecOn generalizing all with
  | ind n ih =>
    cases all with
    | nil => exact ⟨by simp, by simp, by simp⟩
    | cons first rest =>
      let others := rest.filter fun name => !name == first
      have fewer : others.length < n := by
        have kept : others.length ≤ rest.length := List.length_filter_le _ _
        rw [← size, List.length_cons]
        omega
      have later := ih others.length fewer others rfl
      have apart {name : String} (member : name ∈ others.eraseDups) : name ≠ first := by
        simpa using (List.mem_filter.1 ((later.same name).1 member)).2
      rw [List.eraseDups_cons]
      refine ⟨fun name => ?_, ?_, ?_⟩
      · by_cases same : name = first <;> simp [same]
      · exact List.nodup_cons.2 ⟨fun member => apart member rfl, later.once⟩
      · refine List.pairwise_cons.2 ⟨fun name member => ?_, ?_⟩
        · rw [List.idxOf_cons_self, List.idxOf_cons_ne _ (apart member).symm]
          exact Nat.succ_pos _
        · refine later.order.imp_of_mem fun {a b} memberA memberB order => ?_
          rw [List.idxOf_cons_ne _ (apart memberA).symm, List.idxOf_cons_ne _ (apart memberB).symm]
          refine Nat.succ_lt_succ (idxOfFilter ?_ ?_ order)
          · simpa using apart memberA
          · simpa using apart memberB

/- Filling -/

structure ReadsAs (source : String) (t : Template) : Prop where
  whole : t.source = source
  leftmost : t.IsLeftmost
  only : ∀ other : Template, other.source = source → other.IsLeftmost → other = t
  filled : ∀ b, (ofSource source).fill b = String.join (t.map fun
    | .text content => content
    | .slot lead name trail => (b.get? name).getD ("\x7b\x7b" ++ lead ++ name ++ trail ++ "\x7d\x7d"))
  names : ListsOnce (t.filterMap Piece.name?) (ofSource source).names
  unfilled : (ofSource source).fill .empty = source
  agree : ∀ b b' : Bindings, (∀ name ∈ (ofSource source).names, b.get? name = b'.get? name) →
    (ofSource source).fill b = (ofSource source).fill b'
  apart : ∀ (b : Bindings) name value, name ∉ (ofSource source).names →
    (ofSource source).fill (b.set name value) = (ofSource source).fill b

theorem fillAgree {t : Template} {b b' : Bindings} (agree : ∀ name ∈ t.names, b.get? name = b'.get? name) :
    t.fill b = t.fill b' := by
  unfold fill
  congr 1
  refine List.map_congr_left fun p member => ?_
  cases p with
  | text content => rfl
  | slot lead name trail =>
    have named : name ∈ t.names := List.mem_eraseDups.2 (List.mem_filterMap.2 ⟨_, member, rfl⟩)
    simp [Piece.fill, agree name named]

/-- Filling a source is one pass over the only pieces that it can be split into from the left. -/
theorem sourceReads (source : String) : ∃ t : Template, ReadsAs source t := by
  have ⟨leftmost, same⟩ := piecesLeftmost source.toList
  have whole : (ofSource source).source = source := String.toList_inj.1 same
  refine ⟨ofSource source, whole, leftmost, fun other same left => ?_, fun b => ?_, eraseDupsListsOnce _, ?_,
    fun b b' => fillAgree, fun b name value absent => fillAgree fun other member => ?_⟩
  · rw [ofSource, ← same, leftmostRead left]
  · unfold fill
    congr 1
  · exact (String.toList_inj.1 (filledSource _)).trans whole
  · have different : other ≠ name := fun same => absent (same ▸ member)
    rw [Bindings.getSet, if_neg different]

-- the slot starts at the second brace, and what looks like one inside the value stays
example : (ofSource "\x7b\x7b\x7b a\x7d\x7d\x7d").fill ⟨[("a", "\x7b\x7bb\x7d\x7d"), ("b", "nope")]⟩ =
    "\x7b\x7b\x7bb\x7d\x7d\x7d" := by
  decide +kernel

end Template
end ClassScaffold
