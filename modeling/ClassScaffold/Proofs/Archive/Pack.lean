import ClassScaffold.Proofs.Archive.Nodes
import ClassScaffold.Proofs.Archive.Zip
import ClassScaffold.Proofs.Session.Effect
/-! What an archive holds that was packed: an entry for every node below the directory, in their order, with
what stands in the file. -/
namespace ClassScaffold
open Session (Ends Program)
open Text.Utf8 (Bytes)

namespace Disk

variable {d d' : Disk} {root p : Path} {l rel : Location} {c : Bytes}

theorem findBelowFound {q : Location} (region : Region d root l) (some : rel ≠ [])
    (ok : d.findBelow root rel = .ok q) : q = rel ++ l ∧ d.limits.allowPath (pathBelow root rel) = true := by
  obtain ⟨routed, leads⟩ := findLeads.1 region.found
  unfold findBelow walk at ok
  simp only [routed, bind, Except.bind] at ok
  split at ok
  · next short =>
    obtain ⟨mid, n, m, _, before, after⟩ := leadsCut (by simpa using some) (walkLeads ok)
    obtain rfl := leadsUnique (leadsInit before) leads
    obtain ⟨rfl, _⟩ := leadsNames region.clear after
    exact ⟨by rw [List.reverse_reverse], short⟩
  · cases ok

theorem findBelowThere (region : Region d root l) (there : d.get? (rel ++ l) ≠ none)
    (allowed : ∀ name ∈ rel, d.limits.allowName name = true)
    (short : d.limits.allowPath (pathBelow root rel) = true) : d.findBelow root rel = .ok (rel ++ l) := by
  obtain ⟨routed, leads⟩ := findLeads.1 region.found
  have after := leadsThere region.wellFormed region.clear there allowed
  have walked : d.walk .reach ((Route.ofText root.text).start d.here)
      ((Route.ofText root.text).all ++ rel.reverse.map .down) = .ok (rel ++ l) :=
    leadsWalk (leadsJoin (leadsInside leads region.directory) after)
  unfold findBelow
  simp only [routed, bind, Except.bind, short, if_true, walked]

theorem findBelowLong (region : Region d root l) (long : d.limits.allowPath (pathBelow root rel) = false) :
    d.findBelow root rel = .error .nameTooLong := by
  unfold findBelow
  simp [(findLeads.1 region.found).1, bind, Except.bind, long]

theorem readBelowFile (region : Region d root l) (some : rel ≠ []) (ok : d.readBelow root rel = .ok c) :
    d.get? (rel ++ l) = .some (.file c) ∧ d.limits.allowPath (pathBelow root rel) = true := by
  unfold readBelow at ok
  cases found : d.findBelow root rel with
  | error e => simp [found, bind, Except.bind] at ok
  | ok q =>
    obtain ⟨rfl, short⟩ := findBelowFound region some found
    simp only [found, bind, Except.bind, contentsAt] at ok
    split at ok
    · next contents there =>
      cases ok
      exact ⟨there, short⟩
    · cases ok
    · cases ok

theorem enterBelowShort (region : Region d root l) (some : rel ≠ []) (ok : d.enterBelow root rel = .ok ()) :
    d.limits.allowPath (pathBelow root rel) = true := by
  unfold enterBelow at ok
  cases found : d.findBelow root rel with
  | error e => simp [found, bind, Except.bind] at ok
  | ok q => exact (findBelowFound region some found).2

theorem writeAgain (ok : d.write p c = .ok d') (c' : Bytes) : ∃ d'', d.write p c' = .ok d'' := by
  unfold write at *
  cases place : d.writePlace p with
  | error e => simp [place, bind, Except.bind] at ok
  | ok l => exact ⟨_, rfl⟩

theorem readWritten (wf : d.WellFormed) (ok : d.write p c = .ok d') : d'.read p = .ok c := by
  obtain ⟨l, isPlace, rfl, found⟩ := writeFound wf ok
  obtain ⟨name, outer, rfl, _⟩ := isPlace.parent
  exact readFinds.2 ⟨_, found, by rw [getPut d (by simp), if_pos rfl]⟩

end Disk

namespace Archive

open Disk (Location)

variable {s s' : Session} {source archive : Path} {taken : List String}

structure Holds (d : Disk) (source : Path) (n : Node) (e : Entry) : Prop where
  name : e.name = n.entryName
  kind : e.kind = n.kind
  entered : n.kind = .directory → d.enterBelow source n.location = .ok ()
  contents : n.kind = .file → d.readBelow source n.location = .ok e.contents
  empty : n.kind = .directory → e.contents = []
  named : (Text.Utf8.encode n.entryName).length ≤ nameLimit
  short : e.contents.length ≤ lengthLimit

theorem contentsOk {n : Node} {c : Bytes}
    (ends : Ends (contentsOf source n : Program ArchiveFault _) s (.ok c) s') : s'.disk = s.disk ∧
      ((Text.Utf8.encode n.entryName).length ≤ nameLimit →
        Holds s.disk source n ⟨n.entryName, n.kind, c⟩) := by
  unfold contentsOf at ends
  split at ends
  · next kind =>
    obtain ⟨_, t, entered, ends⟩ := Session.endsBindOk ends
    obtain ⟨found, rfl⟩ := Session.lookOk (Session.attemptOk entered)
    obtain ⟨same, rfl⟩ := Session.endsPure ends
    cases same
    exact ⟨rfl, fun named => ⟨rfl, rfl, fun _ => found, by simp [kind], fun _ => rfl, named, Nat.zero_le _⟩⟩
  · next kind =>
    obtain ⟨bytes, t, read, ends⟩ := Session.endsBindOk ends
    obtain ⟨found, rfl⟩ := Session.lookOk (Session.attemptOk read)
    obtain ⟨short, ends⟩ := Session.endsUnless ends
    obtain ⟨same, rfl⟩ := Session.endsPure ends
    cases same
    exact ⟨rfl, fun named => ⟨rfl, rfl, by simp [kind], fun _ => found, by simp [kind], named, Nat.le_of_not_lt short⟩⟩

theorem collectOk {nodes : List Node} {entries : List Entry}
    (ends : Ends (collect source taken nodes : Program ArchiveFault _) s (.ok entries) s') :
    s'.disk = s.disk ∧ List.Forall₂ (Holds s.disk source) nodes entries ∧
      (entries.map Entry.name).Nodup ∧ ∀ e ∈ entries, e.name ∉ taken := by
  induction nodes generalizing s taken entries with
  | nil =>
    obtain ⟨same, rfl⟩ := Session.endsPure ends
    cases same
    exact ⟨rfl, .nil, List.nodup_nil, by simp⟩
  | cons n rest ih =>
    unfold collect at ends
    obtain ⟨fresh, ends⟩ := Session.endsUnless ends
    obtain ⟨short, ends⟩ := Session.endsUnless ends
    obtain ⟨contents, t, read, ends⟩ := Session.endsBindOk ends
    obtain ⟨others, u, collected, ends⟩ := Session.endsBindOk ends
    obtain ⟨same, rfl⟩ := Session.endsPure ends
    cases same
    obtain ⟨sameT, first⟩ := contentsOk read
    obtain ⟨sameU, holds, distinct, apart⟩ := ih collected
    rw [sameT] at sameU holds
    refine ⟨sameU, .cons (first (Nat.le_of_not_lt short)) holds, ?_, ?_⟩
    · refine List.nodup_cons.2 ⟨fun member => ?_, distinct⟩
      obtain ⟨e, inside, same⟩ := List.mem_map.1 member
      exact apart e inside (by simp [same])
    · intro e member
      rcases List.mem_cons.1 member with rfl | later
      · exact fresh
      · exact fun h => apart e later (List.mem_cons_of_mem _ h)

theorem packOk {count : Nat} (ends : Ends (pack source archive : Program ArchiveFault _) s (.ok count) s') :
    ∃ d l entries, s.disk.write archive [] = .ok d ∧ d.find source = .ok l ∧
      List.Forall₂ (Holds d source) (nodesBelow d l) entries ∧ (entries.map Entry.name).Nodup ∧
      d.write archive (Zip.encode entries) = .ok s'.disk ∧ count = entries.length := by
  unfold pack at ends
  obtain ⟨_, t, opened, ends⟩ := Session.endsBindOk ends
  obtain ⟨nodes, u, walked, ends⟩ := Session.endsBindOk ends
  obtain ⟨entries, v, collected, ends⟩ := Session.endsBindOk ends
  obtain ⟨_, x, written, ends⟩ := Session.endsBindOk ends
  obtain ⟨counted, rfl⟩ := Session.endsPure ends
  have opened := Session.writeFileOk (Session.attemptOk opened)
  obtain ⟨found, rfl⟩ := Session.lookOk (Session.attemptOk walked)
  obtain ⟨same, holds, distinct, _⟩ := collectOk collected
  have written := Session.writeFileOk (Session.attemptOk written)
  rw [same] at written
  cases sourceFound : t.disk.find source with
  | error e => simp [sourceFound, bind, Except.bind] at found
  | ok l =>
    simp only [sourceFound, bind, Except.bind, Except.ok.injEq] at found
    subst found
    exact ⟨t.disk, l, entries, opened, sourceFound, holds, distinct, written, Except.ok.inj counted⟩

/- How packing ends when nothing else fails -/

/-- The machine reaches a node by its full path, and the archive has room for its name and its contents. -/
structure IsStorable (d : Disk) (source : Path) (l : Location) (n : Node) : Prop where
  name : (Text.Utf8.encode n.entryName).length ≤ nameLimit
  path : d.limits.allowPath (Disk.pathBelow source n.location) = true
  contents : ∀ c, d.get? (n.location ++ l) = some (.file c) → c.length ≤ lengthLimit

theorem holdsStorable {d : Disk} {l : Location} (region : Disk.Region d source l) {n : Node} {e : Entry}
    (member : n ∈ nodesBelow d l) (holds : Holds d source n e) : IsStorable d source l n := by
  obtain ⟨some, entry, there, same⟩ := (memNodesBelow region.wellFormed).1 member
  refine ⟨holds.named, ?_, fun c file => ?_⟩
  · cases kind : n.kind with
    | directory => exact Disk.enterBelowShort region some (holds.entered kind)
    | file => exact (Disk.readBelowFile region some (holds.contents kind)).2
  · cases there.symm.trans file
    obtain ⟨found, _⟩ := Disk.readBelowFile region some (holds.contents same)
    cases file.symm.trans found
    exact holds.short

/-- Why no entry is made of a node, when these names have been taken. -/
inductive Refuses (d : Disk) (source : Path) (l : Location) (taken : List String) (n : Node) :
    ArchiveFault → Prop where
  | repeated (old : n.entryName ∈ taken) : Refuses d source l taken n (.duplicate n.entryName)
  | name (long : nameLimit < (Text.Utf8.encode n.entryName).length) : Refuses d source l taken n nameTooLong
  | directory (kind : n.kind = .directory) (long : d.limits.allowPath (Disk.pathBelow source n.location) = false) :
      Refuses d source l taken n (.walk (source.join n.path) .nameTooLong)
  | file (kind : n.kind = .file) (long : d.limits.allowPath (Disk.pathBelow source n.location) = false) :
      Refuses d source l taken n (.file (source.join n.path) .nameTooLong)
  | contents {c : Bytes} (there : d.get? (n.location ++ l) = some (.file c)) (long : lengthLimit < c.length) :
      Refuses d source l taken n (.file (source.join n.path) tooLong)

theorem refusesRepeated {d : Disk} {l : Location} {n : Node} {e : ArchiveFault} (refuses : Refuses d source l taken n e)
    (storable : IsStorable d source l n) : n.entryName ∈ taken ∧ e = .duplicate n.entryName := by
  have path := storable.path
  cases refuses with
  | repeated old => exact ⟨old, rfl⟩
  | name long => exact absurd storable.name (Nat.not_le.2 long)
  | directory _ long => cases path.symm.trans long
  | file _ long => cases path.symm.trans long
  | contents there long => exact absurd (storable.contents _ there) (Nat.not_le.2 long)

theorem refusesMore {d : Disk} {l : Location} {n : Node} {e : ArchiveFault} {more : List String}
    (within : taken ⊆ more) (refuses : Refuses d source l taken n e) : Refuses d source l more n e := by
  cases refuses with
  | repeated old => exact .repeated (within old)
  | name long => exact .name long
  | directory kind long => exact .directory kind long
  | file kind long => exact .file kind long
  | contents there long => exact .contents there long

/-- No node is refused in a tree whose nodes have room and names of their own. -/
theorem refusesNone {d : Disk} {l : Location} {nodes before after : List Node} {n : Node} {e : ArchiveFault}
    (storable : ∀ n ∈ nodes, IsStorable d source l n) (distinct : (nodes.map Node.entryName).Nodup)
    (split : nodes = before ++ n :: after) : ¬ Refuses d source l (before.map Node.entryName) n e := by
  intro refuses
  obtain ⟨old, _⟩ := refusesRepeated refuses (storable n (by simp [split]))
  rw [split, List.map_append, List.map_cons] at distinct
  exact absurd rfl ((List.nodup_append.1 distinct).2.2 _ old _ List.mem_cons_self)

/-- A node is refused behind others that have all been taken. -/
structure StopsAt (d : Disk) (source : Path) (l : Location) (taken : List String) (before : List Node) (n : Node)
    (e : ArchiveFault) : Prop where
  storable : ∀ m ∈ before, IsStorable d source l m
  distinct : (before.map Node.entryName).Nodup
  fresh : ∀ m ∈ before, m.entryName ∉ taken
  refuses : Refuses d source l (taken ++ before.map Node.entryName) n e

theorem stopsLater {d : Disk} {l : Location} {m n : Node} {before : List Node} {e : ArchiveFault}
    (storable : IsStorable d source l m) (new : m.entryName ∉ taken)
    (stops : StopsAt d source l (m.entryName :: taken) before n e) : StopsAt d source l taken (m :: before) n e := by
  refine ⟨?_, ?_, ?_, refusesMore ?_ stops.refuses⟩
  · exact List.forall_mem_cons.2 ⟨storable, stops.storable⟩
  · refine List.nodup_cons.2 ⟨fun member => ?_, stops.distinct⟩
    obtain ⟨other, inside, same⟩ := List.mem_map.1 member
    exact stops.fresh other inside (by simp [same])
  · exact List.forall_mem_cons.2 ⟨new, fun other inside old => stops.fresh other inside (List.mem_cons_of_mem _ old)⟩
  · simp

section
variable {l : Location} {n : Node} (region : Disk.Region s.disk source l) (member : n ∈ nodesBelow s.disk l)
  (allowed : ∀ name ∈ n.location, s.disk.limits.allowName name = true) (quiet : s.Quiet)
include region member allowed quiet

theorem contentsEnds (taken : List String) :
    (∃ c s', Ends (contentsOf source n : Program ArchiveFault _) s (.ok c) s' ∧ s'.disk = s.disk ∧ s'.Quiet) ∨
      ∃ e s', Refuses s.disk source l taken n e ∧
        Ends (contentsOf source n : Program ArchiveFault _) s (.error e) s' := by
  obtain ⟨some, entry, there, kind⟩ := (memNodesBelow region.wellFormed).1 member
  have reached (short : s.disk.limits.allowPath (Disk.pathBelow source n.location) = true) :
      s.disk.findBelow source n.location = .ok (n.location ++ l) :=
    Disk.findBelowThere region (by simp [there]) allowed short
  unfold contentsOf
  cases entry with
  | directory =>
    rw [if_pos rfl] at kind
    simp only [kind]
    cases short : s.disk.limits.allowPath (Disk.pathBelow source n.location) with
    | true =>
      have entered : s.disk.enterBelow source n.location = .ok () := by
        simp [Disk.enterBelow, reached short, bind, Except.bind, there]
      exact .inl ⟨[], _, Session.bindEnds (Session.attemptEnds (Session.lookRuns quiet entered)) rfl, rfl, quiet⟩
    | false =>
      have stopped : s.disk.enterBelow source n.location = .error .nameTooLong := by
        simp [Disk.enterBelow, Disk.findBelowLong region short, bind, Except.bind]
      exact .inr ⟨_, _, .directory kind short,
        Session.bindThrows (Session.attemptThrows (Session.lookFails quiet stopped))⟩
  | file c =>
    rw [if_neg (by simp)] at kind
    simp only [kind]
    cases short : s.disk.limits.allowPath (Disk.pathBelow source n.location) with
    | true =>
      have read : s.disk.readBelow source n.location = .ok c := by
        simp [Disk.readBelow, reached short, bind, Except.bind, Disk.contentsAt, there]
      have first : Ends (Host.attempt (ArchiveFault.file (source.join n.path)) (Host.readBelow source n.location)) s
          (.ok c) _ := Session.attemptEnds (Session.lookRuns quiet read)
      by_cases long : lengthLimit < c.length
      · exact .inr ⟨_, _, .contents there long, Session.bindEnds first (Session.unlessThrows long)⟩
      · exact .inl ⟨c, _, Session.bindEnds first (Session.unlessEnds long rfl), rfl, quiet⟩
    | false =>
      have stopped : s.disk.readBelow source n.location = .error .nameTooLong := by
        simp [Disk.readBelow, Disk.findBelowLong region short, bind, Except.bind]
      exact .inr ⟨_, _, .file kind short,
        Session.bindThrows (Session.attemptThrows (Session.lookFails quiet stopped))⟩
  | link target => exact absurd there (region.clear _ some target)

end

/-- Collecting goes through all nodes, or as far as the first one that is refused. -/
theorem collectEnds {l : Location} {nodes : List Node} (taken : List String)
    (region : Disk.Region s.disk source l) (inside : ∀ n ∈ nodes, n ∈ nodesBelow s.disk l)
    (allowed : ∀ n ∈ nodes, ∀ name ∈ n.location, s.disk.limits.allowName name = true) (quiet : s.Quiet) :
    (∃ entries s', Ends (collect source taken nodes : Program ArchiveFault _) s (.ok entries) s' ∧
      s'.disk = s.disk ∧ s'.Quiet) ∨
    ∃ before n after e s', nodes = before ++ n :: after ∧ StopsAt s.disk source l taken before n e ∧
      Ends (collect source taken nodes : Program ArchiveFault _) s (.error e) s' := by
  induction nodes generalizing s taken with
  | nil => exact .inl ⟨[], s, rfl, rfl, quiet⟩
  | cons n rest ih =>
    have stops {e : ArchiveFault} (refuses : Refuses s.disk source l taken n e) :
        StopsAt s.disk source l taken [] n e :=
      ⟨by simp, List.nodup_nil, by simp, refusesMore (by simp) refuses⟩
    by_cases old : n.entryName ∈ taken
    · refine .inr ⟨[], n, rest, _, s, rfl, stops (.repeated old), ?_⟩
      unfold collect
      exact Session.unlessThrows old
    by_cases long : nameLimit < (Text.Utf8.encode n.entryName).length
    · refine .inr ⟨[], n, rest, _, s, rfl, stops (.name long), ?_⟩
      unfold collect
      exact Session.unlessEnds old (Session.unlessThrows long)
    have goes {r : Except ArchiveFault (List Entry)} {s' : Session} (ends : Ends (do
        let contents ← contentsOf source n
        let others ← collect source (n.entryName :: taken) rest
        pure (⟨n.entryName, n.kind, contents⟩ :: others) : Program ArchiveFault _) s r s') :
        Ends (collect source taken (n :: rest)) s r s' := by
      unfold collect
      exact Session.unlessEnds old (Session.unlessEnds long ends)
    rcases contentsEnds region (inside n List.mem_cons_self) (allowed n List.mem_cons_self) quiet taken with
      ⟨c, t, first, sameT, quietT⟩ | ⟨e, t, refuses, first⟩
    · have holds := (contentsOk first).2 (Nat.le_of_not_lt long)
      have storable := holdsStorable region (inside n List.mem_cons_self) holds
      rw [← sameT] at region inside allowed storable
      rcases ih (n.entryName :: taken) region (fun m h => inside m (List.mem_cons_of_mem _ h))
          (fun m h => allowed m (List.mem_cons_of_mem _ h)) quietT with
        ⟨others, u, next, sameU, quietU⟩ | ⟨before, m, after, e, u, split, later, next⟩
      · exact .inl ⟨_, u, goes (Session.bindEnds first (Session.bindEnds next rfl)), sameU.trans sameT, quietU⟩
      · exact .inr ⟨n :: before, m, after, e, u, by rw [split]; rfl, sameT ▸ stopsLater storable old later,
          goes (Session.bindEnds first (Session.bindThrows next))⟩
    · exact .inr ⟨[], n, rest, e, t, rfl, stops refuses, goes (Session.bindThrows first)⟩

/-- Before anything is collected, the archive has been opened and the tree has been walked. -/
theorem packWalks {d : Disk} {l : Disk.Location} (quiet : s.Quiet) (opened : s.disk.write archive [] = .ok d)
    (found : d.find source = .ok l) :
    ∃ u : Session, u.disk = d ∧ u.Quiet ∧ ∀ (r : Except ArchiveFault Nat) (s' : Session),
      Ends (do
        let entries ← collect source [] (nodesBelow d l)
        Host.attempt (.file archive) (Host.writeFile archive (Zip.encode entries))
        pure entries.length : Program ArchiveFault Nat) u r s' → Ends (pack source archive) s r s' := by
  let t := s.record (.writeFile archive) none d
  have walked : (do let l ← d.find source; .ok (nodesBelow d l) : Except Disk.Fault _) = .ok (nodesBelow d l) := by
    rw [found]
    rfl
  refine ⟨t.record (.nodesBelow source) none d, rfl, quiet, fun r s' ends => ?_⟩
  refine Session.bindEnds (Session.attemptEnds (Session.writeFileRuns quiet opened)) ?_
  exact Session.bindEnds (Session.attemptEnds (Session.lookRuns (s := t) quiet walked)) ends

/-- Packing comes to its end, or stops at the first node that is refused. -/
theorem packEnds {d d' : Disk} {l : Location} (quiet : s.Quiet) (opened : s.disk.write archive [] = .ok d)
    (again : d.write archive [] = .ok d') (region : Disk.Region d source l)
    (allowed : ∀ n ∈ nodesBelow d l, ∀ name ∈ n.location, d.limits.allowName name = true) :
    (∃ count s', Ends (pack source archive : Program ArchiveFault _) s (.ok count) s' ∧ s'.Quiet ∧
      ∃ contents, d.write archive contents = .ok s'.disk) ∨
    ∃ before n after e s', nodesBelow d l = before ++ n :: after ∧ StopsAt d source l [] before n e ∧
      Ends (pack source archive : Program ArchiveFault Nat) s (.error e) s' := by
  obtain ⟨u, rfl, quietU, ends⟩ := packWalks quiet opened region.found
  rcases collectEnds [] region (fun _ member => member) allowed quietU with
    ⟨entries, v, collected, same, quietV⟩ | ⟨before, n, after, e, v, split, stops, stopped⟩
  · obtain ⟨d'', written⟩ := Disk.writeAgain again (Zip.encode entries)
    have written' : v.disk.write archive (Zip.encode entries) = .ok d'' := by rwa [same]
    refine .inl ⟨entries.length, v.record (.writeFile archive) none d'', ends _ _ ?_, quietV, _, written⟩
    refine Session.bindEnds collected ?_
    exact Session.bindEnds (Session.attemptEnds (Session.writeFileRuns quietV written')) rfl
  · exact .inr ⟨before, n, after, e, v, split, stops, ends _ _ (Session.bindThrows stopped)⟩

structure Packable (d : Disk) (source : Path) (l : Location) : Prop where
  storable : ∀ n ∈ nodesBelow d l, IsStorable d source l n
  distinct : ((nodesBelow d l).map Node.entryName).Nodup
  allowed : ∀ n ∈ nodesBelow d l, ∀ name ∈ n.location, d.limits.allowName name = true

theorem packSucceeds {d d' : Disk} {l : Location} (quiet : s.Quiet)
    (opened : s.disk.write archive [] = .ok d) (again : d.write archive [] = .ok d')
    (region : Disk.Region d source l) (packable : Packable d source l) :
    ∃ count s', Ends (pack source archive : Program ArchiveFault _) s (.ok count) s' ∧ s'.Quiet ∧
      ∃ contents, d.write archive contents = .ok s'.disk := by
  rcases packEnds quiet opened again region packable.allowed with went | ⟨before, n, after, e, _, split, stops, _⟩
  · exact went
  · exact absurd stops.refuses (refusesNone packable.storable packable.distinct split)

end Archive
end ClassScaffold
