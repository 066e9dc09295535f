import ClassScaffold.Api
import ClassScaffold.Proofs.Disk.Plain
import ClassScaffold.Proofs.Generator.Workspace
import ClassScaffold.Proofs.Text.SafeName
/-! The name of an archive. Whatever its project is called, it is one plain name, and it can stand between quotes in
the header of the message that sends it. -/
namespace ClassScaffold.Generator
open Session (Ends Program)
open Text (IsPrintable IsSafe)
open Text.Utf8 (encode)

/- The name -/

/-- A name that needs no care where it is used: of a few characters, one part of a path, and on any disk an entry of
the directory that one is in, which is what writing there makes or changes unless it is a link. -/
structure IsOwnName (name : String) : Prop where
  safe : IsSafe name
  ending : ∃ stem, name = stem ++ ".zip"
  single : (⟨name⟩ : Path).parts = [.normal name]
  spot : ∀ (d : Disk) place, d.spot ⟨name⟩ = .ok place → place = .entry d.here (encode name)
  writes : ∀ (d d' : Disk) bytes, (∀ target, d.get? (encode name :: d.here) ≠ some (.link target)) →
    d.write ⟨name⟩ bytes = .ok d' ∨ d.append ⟨name⟩ bytes = .ok d' →
      ∃ contents, d' = d.put (encode name :: d.here) (.file contents)

theorem zipSafe : ∀ c ∈ ".zip".toList, Text.isSafe c = true := by simp [Text.isSafe]

theorem fileNameSafe (r : Request) : ∀ c ∈ (fileName r).toList, Text.isSafe c = true := by
  intro c member
  rw [fileName, String.toList_append] at member
  rcases List.mem_append.1 member with start | ending
  · exact Text.safeNameSafe r.project c start
  · exact zipSafe c ending

theorem fileNameOwn (r : Request) : IsOwnName (fileName r) := by
  have safe := fileNameSafe r
  have plain : Path.Plain (fileName r).toList := by
    have absent : '/' ∉ (fileName r).toList := fun inside => Text.safeOther (safe _ inside) (by decide) rfl
    exact plainOf absent (c := 'z') (by simp [fileName]) (by decide)
  have single := partsPlain plain
  rw [String.ofList_toList] at single
  refine ⟨Text.safeIff.2 safe, ⟨_, rfl⟩, single, fun d place => Disk.plainSpot plain, fun d d' bytes unlinked ok => ?_⟩
  rcases ok with ok | ok
  · exact ⟨bytes, Disk.plainWrite plain unlinked ok⟩
  · obtain ⟨old, same⟩ := Disk.plainAppend plain unlinked ok
    exact ⟨_, same⟩

theorem fileNameLength (r : Request) : (fileName r).length = r.project.length + 4 := by
  rw [fileName, String.length_append, Text.safeNameLength]
  rfl

theorem fileNameKept {r : Request} (safe : IsSafe r.project) : fileName r = r.project ++ ".zip" := by
  rw [fileName, Text.safeNameKeeps (Text.safeIff.1 safe)]

/- The header -/

/-- The value of the header that names an attached file, with nothing in it that would end the name early. -/
structure IsHeader (name value : String) : Prop where
  text : value = "attachment; filename=\"" ++ name ++ "\""
  quotes : value.toList.count '"' = 2
  printable : IsPrintable value

theorem headerOf {s : Stream} (safe : ∀ c ∈ s.fileName.toList, Text.isSafe c = true) :
    IsHeader s.fileName s.contentDisposition := by
  have text : s.contentDisposition.toList = "attachment; filename=\"".toList ++ s.fileName.toList ++ "\"".toList := by
    unfold Stream.contentDisposition
    rw [String.toList_append, String.toList_append]
  refine ⟨rfl, ?_, fun c member => ?_⟩
  · have absent : '"' ∉ s.fileName.toList := fun inside => Text.safeOther (safe _ inside) (by decide) rfl
    have start : "attachment; filename=\"".toList.count '"' = 1 := by decide
    have stop : "\"".toList.count '"' = 1 := by decide
    rw [text, List.count_append, List.count_append, start, stop, List.count_eq_zero.2 absent]
  · have fixed : ("attachment; filename=\"".toList ++ "\"".toList).all
        (fun c => decide (0x20 ≤ c.toNat ∧ c.toNat ≤ 0x7E)) = true := by decide
    rw [text, List.append_assoc, List.mem_append, List.mem_append] at member
    rcases member with start | name | stop
    · simpa using List.all_eq_true.1 fixed c (List.mem_append_left _ start)
    · exact Text.safePrintable (safe c name)
    · simpa using List.all_eq_true.1 fixed c (List.mem_append_right _ stop)

/- What comes of a request -/

structure IsNamed (r : Request) (stream : Stream) : Prop where
  length : stream.fileName.length = r.project.length + 4
  own : IsOwnName stream.fileName
  kept : IsSafe r.project → stream.fileName = r.project ++ ".zip"
  header : IsHeader stream.fileName stream.contentDisposition

variable {g : Generator} {r : Request} {s s' : Session}

theorem generatedNamed {w : Workspace} {stream : Stream} (generated : Generated g w r s (.ok stream) s') :
    stream.fileName = fileName r ∧ IsNamed r stream := by
  obtain ⟨contents, _, _, _, same⟩ := generatedOk generated
  have named : stream.fileName = fileName r := same ▸ rfl
  refine ⟨named, ?_, ?_, ?_, headerOf ?_⟩
  · rw [named, fileNameLength]
  · rw [named]
    exact fileNameOwn r
  · rw [named]
    exact fileNameKept
  · rw [named]
    exact fileNameSafe r

theorem answeredNamed {answer : Api.Response} {value : String}
    (ran : (Api.generate g r : StateM Session Api.Response).run s = (answer, s'))
    (sent : answer.contentDisposition = some value) : IsHeader (fileName r) value := by
  unfold Api.generate at ran
  rcases generating : (g.generate r : Program Failure _).run.run s with ⟨result, t⟩
  rw [Session.runBind, generating] at ran
  cases result with
  | error failure =>
    cases ran
    cases sent
  | ok stream =>
    rcases drained : (stream.drain : StateM Session _).run t with ⟨⟨last, contents⟩, u⟩
    simp only [Session.runBind, drained] at ran
    cases ran
    cases sent
    obtain ⟨named, is⟩ := generatedNamed (generateCases generating)
    rw [← named]
    exact is.header

end ClassScaffold.Generator
