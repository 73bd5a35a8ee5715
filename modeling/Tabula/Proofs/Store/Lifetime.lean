import Tabula.Proofs.Store.Files

/-!
# Files over time

A request changes at most the file that it names, and only by one edit, which is a new version
behind the last one or the deletion of a version (`Store.respond_cases`). What many edits may make of
a file is told by `VersionedFile.DescendsFrom`: a version of the file as it is now stood there
before, or its number was not handed out then. So the line of numbers may get shorter, but none of
them ever means another version or comes back, which is why the next number is kept beside the
versions and not taken from the last of them.

`files_of_acts` puts this together with the shape that all files have at any time, over everything
that clients, and whoever hides uploads and plants faults, may do to a store.
-/

namespace Tabula

namespace VersionedFile

variable {f g h : VersionedFile} {number : VersionNumber}

/-- One edit of a file. -/
inductive Edited (f : VersionedFile) : VersionedFile → Prop where
  | pushed (dataset : Dataset) (description : String) : Edited f (f.push dataset description)
  | erased {number : VersionNumber} {f' : VersionedFile} (h : f.erase number = .ok f') : Edited f f'

/-- A file that edits made of another one. -/
structure DescendsFrom (f g : VersionedFile) : Prop where
  /-- Numbers are handed out upwards. -/
  next_le : g.next ≤ f.next
  /-- What has an older number was there before. -/
  mem_or_le : ∀ v ∈ f.versions, v ∈ g.versions ∨ g.next ≤ v.number

theorem DescendsFrom.refl (f : VersionedFile) : f.DescendsFrom f :=
  ⟨Nat.le_refl _, fun _ hv => .inl hv⟩

theorem DescendsFrom.trans (hfg : f.DescendsFrom g) (hgh : g.DescendsFrom h) :
    f.DescendsFrom h where
  next_le := Nat.le_trans hgh.next_le hfg.next_le
  mem_or_le := by
    intro v hv
    rcases hfg.mem_or_le v hv with hv | hle
    · exact hgh.mem_or_le v hv
    · exact .inr (Nat.le_trans hgh.next_le hle)

/-- **One edit.** A new version gets the next number, and a deletion hands out none. -/
theorem Edited.descendsFrom (hf : f.Sound) (hedited : f.Edited g) : g.DescendsFrom f := by
  cases hedited with
  | pushed dataset description =>
    -- only the last version is new, and it has the number that was next
    refine ⟨Nat.le_succ _, fun v hv => ?_⟩
    rw [versions_push] at hv
    rcases List.mem_append.1 hv with hv | hv
    · exact .inl hv
    · obtain rfl := List.mem_singleton.1 hv
      exact .inr (Nat.le_refl _)
  | erased herase =>
    -- all that is left was there
    obtain ⟨i, before, -, -, hversions, -, hnext, -⟩ := hf.of_erase_eq_ok herase
    refine ⟨Nat.le_of_eq hnext.symm, fun v hv => .inl ?_⟩
    rw [hversions] at hv
    exact List.mem_of_mem_eraseIdx hv

/-- A version whose number was handed out already is the one that had it. -/
theorem DescendsFrom.mem_of_lt (hd : f.DescendsFrom g) {v : FileVersion} (hv : v ∈ f.versions)
    (hlt : v.number < g.next) : v ∈ g.versions :=
  (hd.mem_or_le v hv).resolve_right (Nat.not_le_of_lt hlt)

end VersionedFile

/-- Whether a request may edit its file. -/
def Request.edits : Request → Bool
  | remove .. | filter .. => true
  | _ => false

namespace Store

/-- What happens to a store. -/
inductive Act where
  /-- An upload is kept. -/
  | kept (dataset : Dataset)
  /-- Uploads are left out of listings, or not any more. -/
  | hid (hidden : Bool)
  /-- A fault is planted. -/
  | planted (operation : Operation) (fault : ServiceFault)
  /-- A request is answered. -/
  | requested (request : Request)

/-- The store after an act. -/
def act (s : Store) : Act → Store
  | .kept dataset => (s.keep dataset).1
  | .hid hidden => { s with hideUpload := hidden }
  | .planted operation fault => s.plant operation fault
  | .requested request => (s.respond request).1

/-- The store after some acts. -/
def actAll (s : Store) (acts : List Act) : Store :=
  acts.foldl act s

variable {s s' : Store} {id : FileNumber} {f : VersionedFile}

theorem file?_of_files_eq (h : s'.files = s.files) : s'.file? = s.file? := by
  funext id
  cases id with
  | zero => rfl
  | succ n => exact congrArg (fun files : List VersionedFile => files[n]?) h

/-- What a request does to files: nothing, or it is answered and edits the file that it names. -/
theorem respond_cases (s : Store) (request : Request) :
    (s.respond request).1.files = s.files ∨
      request.edits = true ∧ ∃ f f' answer, s.file? request.file = some f ∧ f.Edited f' ∧
        (s.respond request).2 = .ok answer ∧ ∀ id,
          (s.respond request).1.file? id = if id = request.file then some f' else s.file? id := by
  have hresponded := s.responded request
  generalize s.respond request = result at hresponded ⊢
  cases hresponded with
  | failed => exact .inl rfl
  | rows hf => exact .inl rfl
  | upload hf => exact .inl rfl
  | listing hf => exact .inl rfl
  | page => exact .inl rfl
  | removed hf herase =>
    exact .inr ⟨rfl, _, _, _, hf, .erased herase, rfl, fun id => file?_setFile hf⟩
  | filtered hf hrun =>
    exact .inr ⟨rfl, _, _, _, hf, .pushed _ _, rfl, fun id => file?_setFile hf⟩

/-- A request that fails or only reads changes no file. -/
theorem files_of_respond {request : Request}
    (h : (∃ fault, (s.respond request).2 = .error fault) ∨ request.edits = false) :
    (s.respond request).1.files = s.files := by
  rcases s.respond_cases request with hfiles | ⟨hedits, f, f', answer, -, -, hok, -⟩
  · exact hfiles
  · rcases h with ⟨fault, herror⟩ | hreads
    · exact absurd (hok.symm.trans herror) (by simp)
    · exact absurd (hedits.symm.trans hreads) (by simp)

/-- A request leaves the files alone that it does not name. -/
theorem file?_respond_of_ne {request : Request} (h : id ≠ request.file) :
    (s.respond request).1.file? id = s.file? id := by
  rcases s.respond_cases request with hfiles | ⟨-, f, f', answer, -, -, -, hfile⟩
  · rw [file?_of_files_eq hfiles]
  · rw [hfile, if_neg h]

/-- The number of an upload was no file's before. -/
theorem file?_keep_eq_none (s : Store) (dataset : Dataset) :
    s.file? (s.keep dataset).2 = none :=
  List.getElem?_eq_none (Nat.le_refl _)

/-- A store that has all files of another one, as edits have left them. -/
def Continues (s' s : Store) : Prop :=
  ∀ id g, s.file? id = some g → ∃ f, s'.file? id = some f ∧ f.DescendsFrom g

theorem Continues.refl (s : Store) : s.Continues s :=
  fun _ g hg => ⟨g, hg, .refl g⟩

/-- **One act.** Every act leaves all files in place. -/
theorem continues_act (hs : s.Sound) (a : Act) : (s.act a).Continues s := by
  intro id g hg
  cases a with
  | hid hidden => exact ⟨g, hg, .refl g⟩
  | planted operation fault => exact ⟨g, hg, .refl g⟩
  | kept dataset =>
    refine ⟨g, ?_, .refl g⟩
    -- the file was there before, so the upload has another number
    have hne : id ≠ s.files.length + 1 := by
      rintro rfl
      exact absurd (hg.symm.trans (s.file?_keep_eq_none dataset)) (by simp)
    show (s.keep dataset).1.file? id = some g
    rw [file?_keep, if_neg hne]
    exact hg
  | requested request =>
    show ∃ f, (s.respond request).1.file? id = some f ∧ f.DescendsFrom g
    rcases s.respond_cases request with hfiles | ⟨-, f, f', answer, hf, hedited, -, hfile⟩
    · rw [file?_of_files_eq hfiles]
      exact ⟨g, hg, .refl g⟩
    · rw [hfile]
      by_cases hid : id = request.file
      · obtain rfl := Option.some.inj (hf.symm.trans (hid ▸ hg))
        exact ⟨f', if_pos hid, hedited.descendsFrom (hs _ _ hf)⟩
      · exact ⟨g, (if_neg hid).trans hg, .refl g⟩

theorem Reachable.act (hs : s.Reachable) (a : Act) : (s.act a).Reachable := by
  cases a with
  | kept dataset => exact hs.keep dataset
  | hid hidden => exact hs.hide hidden
  | planted operation fault => exact hs.plant operation fault
  | requested request => exact hs.respond request

theorem Reachable.actAll (hs : s.Reachable) (acts : List Act) : (s.actAll acts).Reachable := by
  induction acts generalizing s with
  | nil => exact hs
  | cons a acts ih => exact ih (hs.act a)

/-- **Every run.** All files stay in place, whatever happens to the store. -/
theorem continues_actAll (hs : s.Reachable) (acts : List Act) : (s.actAll acts).Continues s := by
  -- on the acts, for any store to begin with
  induction acts generalizing s with
  | nil => exact .refl s
  | cons a acts ih =>
    intro id g hg
    obtain ⟨f, hf, hfg⟩ := continues_act hs.sound a id g hg
    obtain ⟨f', hf', hf'f⟩ := ih (hs.act a) id f hf
    exact ⟨f', hf', hf'f.trans hfg⟩

/-- **Files over time.** Let a store that starts without files, whatever runs its filters, have gone
through any acts. The numbers of each file's versions begin with that of the upload and increase,
the current version is the last one and is found by its number, and the next number is greater than
all of them. After any further acts the file is still there, its next number is still greater than
every number that the file had before, and no version of it has a number that was handed out before
unless it is the one that had it. So no number is used twice, nor does one that was deleted come
back.

Unless a fault was planted for it, a filter that can be run adds one version to its file, under the
file's next number, and a deletion takes out the version of its number, which may be any but the
upload's. A request that fails or only reads changes no file, no request changes a file that it does
not name, and an upload is kept under a number that no file had. -/
theorem files_of_acts (interpreter : Interpreter) (before after : List Act) :
    let s : Store := actAll { interpreter } before
    (∀ id f, s.file? id = some f →
      f.numbers.head? = some uploadNumber ∧ f.numbers.Pairwise (· < ·) ∧
        f.numbers.getLast? = some f.current ∧
          (f.versions.find? fun v => v.number == f.current) = some f.currentVersion ∧
            f.versions.getLast? = some f.currentVersion ∧ (∀ n ∈ f.numbers, n < f.next)) ∧
    (∀ id f, s.file? id = some f →
      ∃ f', (actAll s after).file? id = some f' ∧ (∀ n ∈ f.numbers, n < f'.next) ∧
        (∀ v ∈ f'.versions, v.number < f.next → v ∈ f.versions) ∧
          (∀ v ∈ f.versions, ∀ v' ∈ f'.versions, v'.number = v.number → v' = v)) ∧
    (∀ id f query dataset description, s.file? id = some f → s.planted .filter = none →
      s.interpreter f.currentVersion.dataset query = .ok (dataset, description) →
        ∃ f', (s.respond (.filter id query)).1.file? id = some f' ∧
          f'.versions = f.versions ++ [{ number := f.next, dataset, description }] ∧
            f'.current = f.next ∧ f'.next = f.next + 1) ∧
    (∀ id f number, s.file? id = some f → s.planted .remove = none →
      number ∈ f.numbers → number ≠ uploadNumber →
        ∃ f', (s.respond (.remove id number)).1.file? id = some f' ∧
          f'.versions = f.versions.filter (·.number != number) ∧ f'.next = f.next) ∧
    (∀ request, (∃ fault, (s.respond request).2 = .error fault) ∨ request.edits = false →
      (s.respond request).1.files = s.files) ∧
    (∀ request id, id ≠ request.file → (s.respond request).1.file? id = s.file? id) ∧
    (∀ dataset, s.file? (s.keep dataset).2 = none ∧
      ∀ id, id ≠ (s.keep dataset).2 → (s.keep dataset).1.file? id = s.file? id) := by
  intro s
  have hreachable : s.Reachable := (Reachable.new interpreter).actAll before
  have hs : s.Sound := hreachable.sound
  refine ⟨?_, ?_, ?_, ?_, fun _ => files_of_respond, fun _ _ => file?_respond_of_ne, ?_⟩
  · -- what the invariant of stores says of one file
    intro id f hf
    have hsound := hs id f hf
    refine ⟨?_, hsound.increasing, hsound.getLast?_numbers, hsound.find?_versions,
      hsound.getLast?_versions.1, fun _ => hsound.lt_next⟩
    exact congrArg some hsound.first_number
  · intro id f hf
    have hsound := hs id f hf
    obtain ⟨f', hf', hd⟩ := continues_actAll hreachable after id f hf
    refine ⟨f', hf', fun n hn => Nat.lt_of_lt_of_le (hsound.lt_next hn) hd.next_le,
      fun v hv => hd.mem_of_lt hv, ?_⟩
    intro v hv v' hv' hnum
    -- the number was handed out, so the later version was there as well
    have hlt : v'.number < f.next := hnum ▸ hsound.lt_next (List.mem_map_of_mem hv)
    exact hsound.eq_of_number_eq (hd.mem_of_lt hv' hlt) hv hnum
  · -- the requests that change a file, and the uploads
    intro id f query dataset description hf hp hrun
    exact ⟨_, file?_respond_filter hf hp hrun, f.versions_push dataset description, rfl, rfl⟩
  · intro id f number hf hp hmem hne
    have hsound := hs id f hf
    obtain ⟨f', herase⟩ := hsound.exists_erase hne hmem
    obtain ⟨i, before, -, -, -, -, hnext, -⟩ := hsound.of_erase_eq_ok herase
    exact ⟨f', file?_respond_remove hf hp herase, hsound.versions_erase herase, hnext⟩
  · intro dataset
    refine ⟨s.file?_keep_eq_none dataset, fun id hid => ?_⟩
    rw [file?_keep]
    exact if_neg hid

/-- Of three filter results the second is deleted, and its number is not given out again. -/
example :
    let acts : List Act :=
      [.kept {}, .requested (.filter 1 "a"), .requested (.filter 1 "b"),
        .requested (.remove 1 3), .requested (.filter 1 "c")]
    ((actAll { interpreter := fun d text => .ok (d, text) } acts).file? 1).map
      VersionedFile.numbers = some [1, 2, 4] := by
  decide

end Store

end Tabula
