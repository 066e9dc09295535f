import ClassScaffold.Proofs.Disk.Route
/-! A path that is one plain name. It stands for an entry of the directory that one is in, and writing to it changes
that entry and nothing else, unless the entry is a link. -/
namespace ClassScaffold.Disk
open Text.Utf8 (Bytes encode)

variable {d d' : Disk} {name : String}

theorem plainRoute (plain : Path.Plain name.toList) : Route.ofText name = ⟨false, [.down (encode name)], false⟩ := by
  obtain ⟨some, dot, dots, absent⟩ := plain
  have steps : (Text.splitAt '/' name.toList).filterMap stepOf = [.down (encode name)] := by
    simp [Text.splitAtWhole absent, stepOf, some, dot, dots]
  have start : name.toList.head? ≠ Option.some '/' := fun first => absent (List.mem_of_head? first)
  have stop : name.toList.getLast? ≠ Option.some '/' := fun last => absent (List.mem_of_getLast? last)
  simp [Route.ofText, steps, start, stop]

theorem plainSpot {spot : Spot} (plain : Path.Plain name.toList) (ok : d.spot ⟨name⟩ = .ok spot) :
    spot = .entry d.here (encode name) := by
  unfold Disk.spot at ok
  cases routed : d.route ⟨name⟩ with
  | error e => simp [routed, bind, Except.bind] at ok
  | ok r =>
    rw [routed, routeText routed, plainRoute plain] at ok
    have stays : d.walk .reach d.here [.inside] = .ok d.here := leadsWalk (.inside (.done linkLimit d.here))
    simp only [bind, Except.bind, spotFrom, Route.start, Bool.false_eq_true, if_false, List.getLast?_singleton,
      List.dropLast_singleton, List.nil_append, stays] at ok
    split at ok
    · cases ok
      rfl
    · contradiction

theorem walkSingle {links : Nat} {base l : Location} {n : Name}
    (unlinked : ∀ target, d.get? (n :: base) ≠ some (.link target))
    (ok : d.walkThrough .write links base [.down n] = .ok l) : l = n :: base := by
  have one {follow} (ok : walkWith d .write follow base [.down n] = .ok l) : l = n :: base := by
    simp only [walkWith, true_and, if_true] at ok
    split at ok
    · contradiction
    · split at ok
      · contradiction
      · cases there : d.get? (n :: base) with
        | none =>
          simp only [there] at ok
          cases ok
          rfl
        | some entry =>
          simp only [there] at ok
          cases entry with
          | link target => exact absurd there (unlinked target)
          | directory => cases ok; rfl
          | file => cases ok; rfl
  cases links with
  | zero => exact one ok
  | succ links => exact one ok

theorem plainWrite (plain : Path.Plain name.toList)
    (unlinked : ∀ target, d.get? (encode name :: d.here) ≠ some (.link target)) {contents : Bytes}
    (ok : d.write ⟨name⟩ contents = .ok d') : d' = d.put (encode name :: d.here) (.file contents) := by
  unfold write writePlace at ok
  cases routed : d.route ⟨name⟩ with
  | error e => simp [routed, bind, Except.bind] at ok
  | ok r =>
    rw [routed, routeText routed, plainRoute plain] at ok
    cases walked : d.walk .write d.here [.down (encode name)] with
    | error e => simp [bind, Except.bind, Route.start, Route.all, walked] at ok
    | ok l =>
      obtain rfl := walkSingle unlinked walked
      simp only [bind, Except.bind, Route.start, Route.all, Bool.false_eq_true, if_false, walked] at ok
      split at ok
      · contradiction
      · next found =>
        split at found
        · contradiction
        · cases found
          cases ok
          rfl

theorem plainAppend (plain : Path.Plain name.toList)
    (unlinked : ∀ target, d.get? (encode name :: d.here) ≠ some (.link target)) {contents : Bytes}
    (ok : d.append ⟨name⟩ contents = .ok d') :
    ∃ old, d' = d.put (encode name :: d.here) (.file (old ++ contents)) := by
  unfold append at ok
  cases found : d.read ⟨name⟩ with
  | error e => simp [found, bind, Except.bind] at ok
  | ok old =>
    simp only [found, bind, Except.bind] at ok
    exact ⟨old, plainWrite plain unlinked ok⟩

end ClassScaffold.Disk
