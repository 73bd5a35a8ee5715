import Tabula.Proofs.Session.Dialogue
import Tabula.Proofs.Session.Following
import Tabula.Proofs.Session.Turns

/-!
# Calls that are made one at a time

Here the calls of a session are followed that wait alone: no call begins while another one waits,
except for a filter that is refused because one is under way. What may be said of the history and
the file then depends on the `Terms`: to which histories filters are put, whether the display is
moved, and which requests are spared planted faults.

A relation between a history and a file is `Upheld` on such terms if four edits restore it, which
are told without any call: a listing is taken over, the display is moved, the result of a filter is
recorded, a deleted version is taken out. `InStep.of_keeps` makes of this that the relation holds
after every run, in all states in which no call waits.

Between two such states the file may be ahead of the history. `Underway` tells how far: one
constructor for each stage of each call, with what the call has done to the file and what the
history has yet to follow.
-/

namespace Tabula.Session

/-- Whether a call is a filter. -/
def Call.isFilter : Call → Bool
  | filter _ => true
  | _ => false

/-- The terms on which calls are made one at a time. -/
structure Terms where
  /-- The histories to which a filter may be put. -/
  filters : History → Bool
  /-- Whether another version may be put on display. -/
  moves : Bool
  /-- The calls that wait for requests that no fault is planted for. -/
  spares : Pending → Bool

namespace Terms

/-- Whether a call may be made on a history. -/
def PermitsOn (t : Terms) (h : History) : Call → Prop
  | .filter _ => t.filters h = true
  | .undo | .redo => t.moves = true
  | _ => True

/-- Whether the request of a call may be carried out. -/
def PermitsRequest (t : Terms) (s : Store) (e : Exchange) : Prop :=
  t.spares e.pending = false ∨ s.planted e.request.operation = none

/-- The policy of calls that are made one at a time. -/
def Permits (t : Terms) (d : Dialogue) : Dialogue.Act → Prop
  | .call c =>
    (d.exchanges.isEmpty = true ∨ c.isFilter = true ∧ d.session.filtering = true) ∧
      t.PermitsOn d.session.table.history c
  | .serve i =>
    match d.exchanges[i]? with
    | some e => t.PermitsRequest d.store e
    | none => True
  | .cancel _ => False
  | .deliver _ | .plant .. => True

instance (t : Terms) (h : History) (c : Call) : Decidable (t.PermitsOn h c) := by
  unfold PermitsOn
  split <;> infer_instance

instance (t : Terms) (s : Store) (e : Exchange) : Decidable (t.PermitsRequest s e) :=
  inferInstanceAs (Decidable (_ ∨ _))

instance (t : Terms) (d : Dialogue) : (a : Dialogue.Act) → Decidable (t.Permits d a)
  | .call c =>
    inferInstanceAs (Decidable ((_ ∨ _ ∧ _) ∧ t.PermitsOn d.session.table.history c))
  | .serve i =>
    decidable_of_iff (∀ e ∈ d.exchanges[i]?, t.PermitsRequest d.store e) <| by
      cases h : d.exchanges[i]? <;> simp [Permits, h]
  | .cancel _ => .isFalse id
  | .deliver _ | .plant .. => .isTrue trivial

end Terms

/-- The file after a filter with this result, whose rows are those of a dataset. -/
def Filtered (result : FilterResult) (f f' : VersionedFile) : Prop :=
  ∃ dataset : Dataset, dataset.rows = result.rows ∧ f' = f.push dataset result.description

/-- The file after a version was deleted. -/
def Removed (number : VersionNumber) (f f' : VersionedFile) : Prop :=
  f.erase number = .ok f'

/-- A relation between a history and a file that the edits of calls restore, on some terms. -/
structure Upheld (t : Terms) (hidden : Bool) (R : History → VersionedFile → Prop) : Prop where
  listed {h h' : History} {f : VersionedFile} {upload : Option Dataset} (hf : f.Sound)
    (hok : h.takeOver (f.listing hidden) upload = .ok h') (hh' : h'.Follows f) : R h' f
  moved {h h' : History} {f : VersionedFile} (ht : t.moves = true) (hh : h.Follows f) (hR : R h f)
    (hok : h.older? = some h' ∨ h.newer? = some h') : R h' f
  recorded {h h' : History} {f : VersionedFile} {number : VersionNumber} {dataset kept : Dataset}
    {description : String} (ht : t.filters h = true) (hf : f.Sound) (hh : h.Follows f) (hR : R h f)
    (hrows : dataset.rows = kept.rows) (hok : h.appendAs number dataset description = .ok h')
    (hnumber : number = f.next ∨ number = h.nextNumber ∧
      t.spares (.filterNumber { rows := kept.rows, description }) = false) :
    R h' (f.push kept description)
  removed {h h' : History} {f f' : VersionedFile} {number : VersionNumber} {removal : Removal}
    {upload : Option Dataset} (ht : t.spares (.removalListing removal upload) = false)
    (hf : f.Sound) (hh : h.Follows f) (hR : R h f) (hplan : h.planRemoval number = .ok removal)
    (hok : h.remove removal = .ok h') (herase : f.erase number = .ok f') : R h' f'

/-- The history of a file, and the file, which may be ahead. -/
def Tied (R : History → VersionedFile → Prop) (file : Option FileNumber) (h : History)
    (files : FileNumber → Option VersionedFile) (ahead : VersionedFile → VersionedFile → Prop) :
    Prop :=
  ∀ id, file = some id →
    ∃ f f', files id = some f' ∧ f.Sound ∧ h.Follows f ∧ R h f ∧ ahead f f'

/-- A call that waits alone, and how far it has come. -/
inductive Underway (t : Terms) (hidden : Bool) (R : History → VersionedFile → Prop)
    (file : Option FileNumber) (h : History) (files : FileNumber → Option VersionedFile) :
    Exchange → Prop where
  | connectListing {id : FileNumber} {reply : Option Reply} (htied : Tied R file h files Eq)
    (hreply : ∀ entries, reply = some (.ok (.listing entries)) →
      ∃ f, files id = some f ∧ entries = f.listing hidden) :
    Underway t hidden R file h files ⟨.connectListing id, .listing id, reply⟩
  | connectUpload {id : FileNumber} {f : VersionedFile} {reply : Option Reply}
    (htied : Tied R file h files Eq) (hf : files id = some f)
    (hreply : ∀ rows, reply = some (.ok (.rows rows)) → rows = f.first.dataset.rows) :
    Underway t hidden R file h files ⟨.connectUpload id (f.listing hidden), .upload id, reply⟩
  | filtering {id : FileNumber} {query : String} (htied : Tied R file h files Eq)
    (hfile : file = some id) (ht : t.filters h = true) :
    Underway t hidden R file h files ⟨.filterResult id, .filter id query, none⟩
  | filterFailed {id : FileNumber} {query : String} {fault : ServiceFault}
    (htied : Tied R file h files Eq) :
    Underway t hidden R file h files ⟨.filterResult id, .filter id query, some (.error fault)⟩
  | filtered {id : FileNumber} {query : String} {result : FilterResult}
    (htied : Tied R file h files (Filtered result)) (hfile : file = some id)
    (ht : t.filters h = true) :
    Underway t hidden R file h files
      ⟨.filterResult id, .filter id query, some (.ok (.filtered result))⟩
  | numbering {id : FileNumber} {result : FilterResult} {reply : Option Reply}
    (htied : Tied R file h files (Filtered result)) (hfile : file = some id)
    (ht : t.filters h = true)
    (hreply : ∀ r, reply = some r →
      (∃ f, files id = some f ∧ r = .ok (.listing (f.listing hidden))) ∨
        t.spares (.filterNumber result) = false ∧ r.listing? = none) :
    Underway t hidden R file h files ⟨.filterNumber result, .listing id, reply⟩
  | removing {id : FileNumber} {number : VersionNumber} {removal : Removal}
    (htied : Tied R file h files Eq) (hfile : file = some id)
    (hplan : h.planRemoval number = .ok removal) :
    Underway t hidden R file h files
      ⟨.removalAnswer id removal (h.upload?.map Version.dataset), .remove id number, none⟩
  | removalFailed {id : FileNumber} {number : VersionNumber} {removal : Removal}
    {upload : Option Dataset} {fault : ServiceFault} (htied : Tied R file h files Eq) :
    Underway t hidden R file h files
      ⟨.removalAnswer id removal upload, .remove id number, some (.error fault)⟩
  | removed {id : FileNumber} {number : VersionNumber} {removal : Removal}
    (htied : Tied R file h files (Removed number)) (hfile : file = some id)
    (hplan : h.planRemoval number = .ok removal) :
    Underway t hidden R file h files
      ⟨.removalAnswer id removal (h.upload?.map Version.dataset), .remove id number,
        some (.ok .removed)⟩
  | relisting {id : FileNumber} {number : VersionNumber} {removal : Removal} {reply : Option Reply}
    (htied : Tied R file h files (Removed number)) (hfile : file = some id)
    (hplan : h.planRemoval number = .ok removal)
    (hreply : ∀ r, reply = some r →
      (∃ f, files id = some f ∧ r = .ok (.listing (f.listing hidden))) ∨
        t.spares (.removalListing removal (h.upload?.map Version.dataset)) = false ∧
          r.listing? = none) :
    Underway t hidden R file h files
      ⟨.removalListing removal (h.upload?.map Version.dataset), .listing id, reply⟩
  | page {id : FileNumber} {index size : Nat} {ticket : Ticket} {reply : Option Reply}
    (htied : Tied R file h files Eq) :
    Underway t hidden R file h files ⟨.page ticket, .page id index size, reply⟩

variable {t : Terms} {hidden : Bool} {R : History → VersionedFile → Prop} {file : Option FileNumber}
  {h : History} {st : Store} {files : FileNumber → Option VersionedFile}
  {ahead : VersionedFile → VersionedFile → Prop}

theorem Tied.of_file_eq_none (hfile : file = none) : Tied R file h files ahead :=
  fun id hid => absurd (hfile.symm.trans hid) (by simp)

/-- The file that a call changes is ahead of the history by that change. -/
theorem Tied.setFile {id : FileNumber} {f f' : VersionedFile} (hf : st.file? id = some f)
    (hfile : file = some id) (htied : Tied R file h st.file? Eq) (hchange : ahead f f') :
    Tied R file h (st.setFile id f').file? ahead := by
  intro id' hid
  obtain rfl : id = id' := Option.some.inj (hfile.symm.trans hid)
  obtain ⟨f₀, f₁, hf₁, hsound, hfollows, hR, heq⟩ := htied id hid
  subst heq
  obtain rfl : f₀ = f := Option.some.inj (hf₁.symm.trans hf)
  exact ⟨f₀, f', Store.file?_setFile_self hf, hsound, hfollows, hR, hchange⟩

/-! ### Listings in order -/

/-- A listing that arrives behind a deletion is taken over as it stands if it is in the order of its
numbers. -/
theorem Dialogue.after_deliver_removalListing (d : Dialogue) {i : Nat} {removal : Removal}
    {upload : Option Dataset} {request : Request} {entries : List Entry} {line : List Version}
    (hi : d.exchanges[i]? =
      some ⟨.removalListing removal upload, request, some (.ok (.listing entries))⟩)
    (hl : (entries.map Entry.version).Pairwise (· < ·))
    (hline : History.withUpload (entries.map Version.ofEntry) upload = .ok line) :
    d.after (.deliver i) =
      { d with
        session := d.session.display
          { d.session.table with
            history :=
              { versions := History.markOnly line (History.lastCurrent line)
                position := History.lastCurrent line
                highest := max d.session.table.history.highest
                  ((line.getLast?.map Version.number).getD uploadNumber) } }
        exchanges := d.exchanges.eraseIdx i } := by
  have hturn : d.after (.deliver i) =
      d.turned (d.exchanges.eraseIdx i)
        (.ofStep (d.session.afterRemoval removal upload (some entries))) := by
    rw [Dialogue.after, hi]
    rfl
  rw [hturn, afterRemoval_of_takeOver_eq_ok (History.takeOver_of_pairwise hl hline)]
  rfl

/-! ### Requests -/

/-- A listing that was asked for comes, if its request is spared. -/
theorem respond_listing_cases {id : FileNumber} {pending : Pending}
    (hpermits : t.PermitsRequest st ⟨pending, .listing id, none⟩) {f : VersionedFile}
    (hf : st.file? id = some f) :
    (st.respond (.listing id)).2 = .ok (.listing (f.listing st.hideUpload)) ∨
      t.spares pending = false ∧ (st.respond (.listing id)).2.listing? = none := by
  rcases hpermits with hspares | hplanted
  · have hresponded := st.responded (.listing id)
    generalize st.respond (.listing id) = result at hresponded ⊢
    cases hresponded with
    | failed => exact .inr ⟨hspares, rfl⟩
    | listing hf' =>
      obtain rfl := Option.some.inj (hf.symm.trans hf')
      exact .inl rfl
  · exact .inl (Store.respond_listing hf hplanted)

/-- A listing changes no file. -/
theorem file?_respond_listing (st : Store) (id : FileNumber) :
    (st.respond (.listing id)).1.file? = st.file? := by
  have hresponded := st.responded (.listing id)
  generalize st.respond (.listing id) = result at hresponded ⊢
  cases hresponded <;> rfl

/-- **Requests.** Each request that the store carries out brings its call a stage further. -/
theorem Underway.serve {pending : Pending} {request : Request}
    (hunder : Underway t hidden R file h st.file? ⟨pending, request, none⟩)
    (hhidden : st.hideUpload = hidden) (hpermits : t.PermitsRequest st ⟨pending, request, none⟩) :
    Underway t hidden R file h (st.respond request).1.file?
      ⟨pending, request, some (st.respond request).2⟩ := by
  subst hhidden
  -- only a filter and a deletion change the file, and only where they are not refused
  cases hunder with
  -- an opening reads the file, and the call goes on with what was read
  | @connectListing id _ htied hreply =>
    have hresponded := st.responded (.listing id)
    generalize st.respond (.listing id) = result at hresponded ⊢
    cases hresponded with
    | failed => exact .connectListing htied fun entries hentries => absurd hentries (by simp)
    | listing hf =>
      exact .connectListing htied fun entries hentries => ⟨_, hf, by simpa using hentries.symm⟩
  | @connectUpload id f _ htied hf hreply =>
    have hresponded := st.responded (.upload id)
    generalize st.respond (.upload id) = result at hresponded ⊢
    cases hresponded with
    | failed => exact .connectUpload htied hf fun rows hrows => absurd hrows (by simp)
    | upload hf' =>
      obtain rfl := Option.some.inj (hf.symm.trans hf')
      exact .connectUpload htied hf fun rows hrows => by simpa using hrows.symm
  -- a filter that is carried out makes a version
  | @filtering id query htied hfile ht =>
    have hresponded := st.responded (.filter id query)
    generalize st.respond (.filter id query) = result at hresponded ⊢
    cases hresponded with
    | failed => exact .filterFailed htied
    | filtered hf hrun => exact .filtered (htied.setFile hf hfile ⟨_, rfl, rfl⟩) hfile ht
  | @numbering id result _ htied hfile ht hreply =>
    obtain ⟨f, f', hf', -⟩ := htied id hfile
    rw [file?_respond_listing]
    refine .numbering htied hfile ht fun r hr => ?_
    obtain rfl := Option.some.inj hr
    exact (respond_listing_cases hpermits hf').imp_left fun hlisted => ⟨f', hf', hlisted⟩
  -- a deletion that is carried out takes one out, and its listing is then read
  | @removing id number removal htied hfile hplan =>
    have hresponded := st.responded (.remove id number)
    generalize st.respond (.remove id number) = result at hresponded ⊢
    cases hresponded with
    | failed => exact .removalFailed htied
    | removed hf herase => exact .removed (htied.setFile hf hfile herase) hfile hplan
  | @relisting id number removal _ htied hfile hplan hreply =>
    obtain ⟨f, f', hf', -⟩ := htied id hfile
    rw [file?_respond_listing]
    refine .relisting htied hfile hplan fun r hr => ?_
    obtain rfl := Option.some.inj hr
    exact (respond_listing_cases hpermits hf').imp_left fun hlisted => ⟨f', hf', hlisted⟩
  | @page id index size ticket _ htied =>
    have hresponded := st.responded (.page id index size)
    generalize st.respond (.page id index size) = result at hresponded ⊢
    cases hresponded with
    | failed => exact .page htied
    | page => exact .page htied

/-! ### Turns -/

/-- What a turn of a call comes to that waits alone: the call ends and the history shows the file,
or it waits for another request. -/
def Settles (t : Terms) (hidden : Bool) (R : History → VersionedFile → Prop) (turn : Turn)
    (files : FileNumber → Option VersionedFile) : Prop :=
  ((∃ result, turn.next = .returned result) ∧
      Tied R turn.session.table.file turn.session.table.history files Eq) ∨
    ∃ request pending, turn.next = .waiting request pending ∧
      Underway t hidden R turn.session.table.file turn.session.table.history files
        ⟨pending, request, none⟩

variable {s : Session} {turn : Turn}

theorem Turn.Ends.settles (hends : turn.Ends file h) (htied : Tied R file h files Eq) :
    Settles t hidden R turn files := by
  refine .inl ⟨hends.returned, ?_⟩
  rw [hends.file_eq, hends.history_eq]
  exact htied

/-- A turn that ends with another history settles what that history and the file have in common. -/
theorem Turn.Ends.settles_of {id : FileNumber} {f : VersionedFile} (hends : turn.Ends file h)
    (hfile : file = some id) (hf : files id = some f) (hsound : f.Sound) (hfollows : h.Follows f)
    (hR : R h f) : Settles t hidden R turn files := by
  refine hends.settles fun id' hid => ?_
  obtain rfl : id = id' := Option.some.inj (hfile.symm.trans hid)
  exact ⟨f, f, hf, hsound, hfollows, hR, rfl⟩

/-- The file is open whose listing was taken over. -/
theorem Turn.Ends.settles_takeOver {id : FileNumber} {f : VersionedFile} {h' : History}
    {upload : Option Dataset} (hR : Upheld t hidden R) (hends : turn.Ends file h')
    (hfile : file = some id) (hf : files id = some f) (hsound : f.Sound)
    (hlt : h.highest < f.next) (hrows : ∀ d, upload = some d → d.rows = f.first.dataset.rows)
    (hok : h.takeOver (f.listing hidden) upload = .ok h') : Settles t hidden R turn files :=
  have hfollows := History.Follows.takeOver hsound hlt hrows hok
  hends.settles_of hfile hf hsound hfollows (hR.listed hsound hok hfollows)

/-- A turn that only looks at the table leaves it in step with the file. -/
theorem Turn.Views.settles (hviews : turn.Views s)
    (htied : Tied R s.table.file s.table.history files Eq) : Settles t hidden R turn files := by
  rw [← hviews.file_eq, ← hviews.history_eq] at htied
  rcases hviews.next with hret | ⟨id, index, size, ticket, hnext⟩
  · exact .inl ⟨hret, htied⟩
  · exact .inr ⟨_, _, hnext, .page htied⟩

/-- **First turns.** A call that begins where the history shows the file goes on alone. -/
theorem settles_begin {c : Call} (hR : Upheld t hidden R)
    (htied : Tied R s.table.file s.table.history files Eq)
    (hpermits : t.PermitsOn s.table.history c) :
    Settles t hidden R (c.begin s) files := by
  have hbegun := begun (s := s) c
  generalize c.begin s = turn at hbegun ⊢
  -- no call changes the file when it begins; what it edits is the history, or nothing yet
  cases hbegun with
  | stays => exact .inl ⟨⟨_, rfl⟩, htied⟩
  | views hc hviews => exact hviews.settles htied
  | shows hends => exact hends.settles (.of_file_eq_none rfl)
  | connects => exact .inr ⟨_, _, rfl, .connectListing htied (by simp)⟩
  | older hok hends =>
    refine hends.settles fun id hid => ?_
    obtain ⟨f, f', hf, hsound, hfollows, hRf, heq⟩ := htied id hid
    exact ⟨f, f', hf, hsound, hfollows.older? hok, hR.moved hpermits hfollows hRf (.inl hok), heq⟩
  | newer hok hends =>
    refine hends.settles fun id hid => ?_
    obtain ⟨f, f', hf, hsound, hfollows, hRf, heq⟩ := htied id hid
    exact ⟨f, f', hf, hsound, hfollows.newer? hok, hR.moved hpermits hfollows hRf (.inr hok), heq⟩
  | filters hfile hopen => exact .inr ⟨_, _, rfl, .filtering htied hfile hpermits⟩
  | removes hfile hplan => exact .inr ⟨_, _, rfl, .removing htied hfile hplan⟩
  | removesHere hfile hplan hok hends => exact hends.settles (.of_file_eq_none rfl)

/-! ### Replies that arrive -/

/-- A listing tells the number of the current version, unless that is an upload that it hides. -/
theorem assignedNumber?_listing {f : VersionedFile} (hf : f.Sound)
    (hne : f.current ≠ uploadNumber) : assignedNumber? (f.listing hidden) = some f.current := by
  obtain ⟨hlast, hnumber⟩ := hf.getLast?_versions
  obtain ⟨before, hversions⟩ := List.getLast?_eq_some_iff.1 hlast
  -- the current version stands last, is not left out, and is marked
  have hkept : (!(hidden && f.currentVersion.number == uploadNumber)) = true := by
    simp [hnumber, hne]
  have hmark : (f.entry f.currentVersion).isCurrent = true := beq_iff_eq.2 hnumber
  rw [VersionedFile.listing, hversions, List.filter_append, List.filter_singleton, hkept,
    List.map_append, assignedNumber?]
  simp [hmark]
  exact hnumber

/-- The result of a filter is recorded, under the number of the file or under the next free one. -/
theorem settles_record {id : FileNumber} {result : FilterResult} {reply : Reply}
    (hR : Upheld t hidden R)
    (htied : Tied R s.table.file s.table.history files (Filtered result))
    (hfile : s.table.file = some id) (ht : t.filters s.table.history = true)
    (hreply : (∃ f, files id = some f ∧ reply = .ok (.listing (f.listing hidden))) ∨
      t.spares (.filterNumber result) = false ∧ reply.listing? = none)
    (hresumed : Resumed s (.filterNumber result) reply turn) : Settles t hidden R turn files := by
  obtain ⟨f, f', hf', hsound, hfollows, hRf, kept, hrows, rfl⟩ := htied id hfile
  cases hresumed with
  | recordFails herror =>
    -- recording never fails
    obtain ⟨h', number, hok⟩ := exists_appended hfollows.toSound _ _ _
    exact absurd (herror.symm.trans hok) (by simp)
  | @records _ _ h' number _ hok hends =>
    have hdataset : (s.resultDataset result.rows).rows = kept.rows := by
      rw [rows_resultDataset, hrows]
    -- either way, the number is one that the file has not given out before
    obtain ⟨happend, hassigned⟩ := of_appended_eq_ok hok
    have hnumber : number ≤ f.next ∧ (number = f.next ∨ number = s.table.history.nextNumber ∧
        t.spares (.filterNumber { rows := kept.rows, description := result.description }) =
          false) := by
      rcases hreply with ⟨f', hf'', rfl⟩ | ⟨hspares, hnone⟩
      · obtain rfl := Option.some.inj (hf''.symm.trans hf')
        have hlisted : assignedNumber? ((f.push kept result.description).listing hidden) =
            some f.next :=
          assignedNumber?_listing (hsound.push kept _) (Nat.ne_of_gt hsound.uploadNumber_lt_next)
        rw [Reply.listing?, Option.bind_some, hlisted] at hok
        obtain rfl := number_eq_of_appended hfollows.toSound hfollows.highest_lt hok
        exact ⟨Nat.le_refl _, .inl rfl⟩
      · obtain rfl : number = s.table.history.nextNumber :=
          hassigned.resolve_left (by simp [hnone])
        exact ⟨hfollows.highest_lt, .inr ⟨rfl, hrows ▸ hspares⟩⟩
    have hfollows' := (hfollows.push kept result.description).appendAs
      (Nat.lt_succ_of_le hnumber.1) happend
    exact hends.settles_of hfile hf' (hsound.push kept _) hfollows'
      (hR.recorded ht hsound hfollows hRf hdataset happend hnumber.2)

/-- Behind a deletion, the history takes over the listing of the file, or it does without the
version where no listing comes. -/
theorem ends_of_removalListing {number : VersionNumber} {removal : Removal} {reply : Reply}
    {f f' : VersionedFile} (hfollows : s.table.history.Follows f) (hf' : f'.Sound)
    (hplan : s.table.history.planRemoval number = .ok removal)
    (hreply : reply = .ok (.listing (f'.listing hidden)) ∨ reply.listing? = none)
    (hresumed : Resumed s
      (.removalListing removal (s.table.history.upload?.map Version.dataset)) reply turn) :
    ∃ h', turn.Ends s.table.file h' ∧
      (s.table.history.takeOver (f'.listing hidden)
          (s.table.history.upload?.map Version.dataset) = .ok h' ∨
        reply.listing? = none ∧ s.table.history.remove removal = .ok h') := by
  cases hresumed with
  | refreshes hok hends =>
    rcases hreply with heq | hnone
    · obtain rfl : _ = f'.listing hidden := by simpa using heq
      exact ⟨_, hends, .inl hok⟩
    · exact absurd hnone (by simp [Reply.listing?])
  | removesHere hno hends =>
    rcases hreply with rfl | hnone
    · -- a listing that came could have been taken over
      obtain ⟨h', hok⟩ := hfollows.exists_takeOver hf' hidden
      exact absurd hok (hno _ _ rfl)
    · obtain ⟨-, -, i, v, -, -, -, hok⟩ :=
        History.exists_remove_of_planRemoval hfollows.toSound hplan
      rw [hok] at hends
      exact ⟨_, hends, .inr ⟨hnone, hok⟩⟩

/-- The version that the file lost is taken out of the history, or its listing is taken over. -/
theorem settles_removal {id : FileNumber} {number : VersionNumber} {removal : Removal}
    {reply : Reply} (hR : Upheld t hidden R) (hfiles : ∀ id f, files id = some f → f.Sound)
    (htied : Tied R s.table.file s.table.history files (Removed number))
    (hfile : s.table.file = some id) (hplan : s.table.history.planRemoval number = .ok removal)
    (hreply : (∃ f, files id = some f ∧ reply = .ok (.listing (f.listing hidden))) ∨
      t.spares (.removalListing removal (s.table.history.upload?.map Version.dataset)) = false ∧
        reply.listing? = none)
    (hresumed : Resumed s
      (.removalListing removal (s.table.history.upload?.map Version.dataset)) reply turn) :
    Settles t hidden R turn files := by
  obtain ⟨f, f', hf', hsound, hfollows, hRf, herase⟩ := htied id hfile
  obtain ⟨-, -, -, -, -, -, hnext, hfirst⟩ := hsound.of_erase_eq_ok herase
  have hsound' : f'.Sound := hfiles id f' hf'
  -- what is listed is the file without the version
  have hlisted : reply = .ok (.listing (f'.listing hidden)) ∨ reply.listing? = none := by
    refine hreply.imp (fun ⟨f'', hf'', heq⟩ => ?_) And.right
    obtain rfl := Option.some.inj (hf''.symm.trans hf')
    exact heq
  obtain ⟨h', hends, hok | ⟨hnone, hok⟩⟩ :=
    ends_of_removalListing hfollows hsound' hplan hlisted hresumed
  · -- a listing that came is taken over
    refine hends.settles_takeOver hR hfile hf' hsound' (hnext ▸ hfollows.highest_lt)
      (fun d hd => ?_) hok
    obtain ⟨v, hv, rfl⟩ := Option.map_eq_some_iff.1 hd
    rw [hfollows.upload_rows hv, hfirst]
  · -- where none came, the terms allow for that, and the version is taken out of the history
    have hspares : t.spares (.removalListing removal
        (s.table.history.upload?.map Version.dataset)) = false := by
      rcases hreply with ⟨f'', -, rfl⟩ | ⟨hspares, -⟩
      · exact absurd hnone (by simp [Reply.listing?])
      · exact hspares
    exact hends.settles_of hfile hf' hsound' ((hfollows.erase hsound herase).remove hok)
      (hR.removed hspares hsound hfollows hRf hplan hok herase)

/-- The upload that the history has is that of its file. -/
theorem Tied.knownUpload?_rows {id : FileNumber} {f : VersionedFile} {dataset : Dataset}
    (htied : Tied R s.table.file s.table.history files Eq) (hf : files id = some f)
    (hup : s.knownUpload? id = some dataset) : dataset.rows = f.first.dataset.rows := by
  unfold knownUpload? at hup
  split at hup
  · next hfile =>
    obtain ⟨v, hv, rfl⟩ := Option.map_eq_some_iff.1 hup
    obtain ⟨f₀, f₁, hf₁, -, hfollows, -, heq⟩ := htied id hfile
    subst heq
    obtain rfl := Option.some.inj (hf₁.symm.trans hf)
    exact hfollows.upload_rows hv
  · exact absurd hup (by simp)

/-- **Later turns.** A call that waits alone goes on alone when its reply arrives. -/
theorem settles_resume {pending : Pending} {request : Request} {reply : Reply}
    (hR : Upheld t hidden R) (hfiles : ∀ id f, files id = some f → f.Sound)
    (hunder :
      Underway t hidden R s.table.file s.table.history files ⟨pending, request, some reply⟩) :
    Settles t hidden R (.ofStep (s.resume pending reply)) files := by
  have hresumed := resumed (s := s) pending reply
  generalize Turn.ofStep (s.resume pending reply) = turn at hresumed ⊢
  -- each stage says which reply has come, and with it which of the turns are possible
  cases hunder with
  | connectListing htied hreply =>
    cases hresumed with
    | connectFails hends => exact hends.settles htied
    | asksUpload =>
      obtain ⟨f, hf, rfl⟩ := hreply _ rfl
      exact .inr ⟨_, _, rfl, .connectUpload htied hf (by simp)⟩
    | connects hup hok hends =>
      obtain ⟨f, hf, rfl⟩ := hreply _ rfl
      have hsound := hfiles _ f hf
      refine hends.settles_takeOver hR rfl hf hsound hsound.next_pos (fun d hd => ?_) hok
      rcases hup with rfl | rfl
      · exact absurd hd (by simp)
      · exact htied.knownUpload?_rows hf hd
  | connectUpload htied hf hreply =>
    cases hresumed with
    | uploadFails hends => exact hends.settles htied
    | connectsWith hok hends =>
      have hsound := hfiles _ _ hf
      refine hends.settles_takeOver hR rfl hf hsound hsound.next_pos (fun d hd => ?_) hok
      obtain rfl := Option.some.inj hd
      exact hreply _ rfl
  -- a filter was refused, or goes on to its listing
  | filterFailed htied =>
    cases hresumed with
    | filterFails hno hends => exact hends.settles htied
  | filtered htied hfile ht =>
    cases hresumed with
    | filterFails hno => exact absurd rfl (hno _)
    | filtered => exact .inr ⟨_, _, rfl, .numbering htied hfile ht (by simp)⟩
  | numbering htied hfile ht hreply =>
    exact settles_record hR htied hfile ht (hreply _ rfl) hresumed
  -- and so does a deletion
  | removalFailed htied =>
    cases hresumed with
    | removalFails hno hends => exact hends.settles htied
  | removed htied hfile hplan =>
    cases hresumed with
    | removalFails hno => exact absurd rfl hno
    | removed => exact .inr ⟨_, _, rfl, .relisting htied hfile hplan (by simp)⟩
  | relisting htied hfile hplan hreply =>
    exact settles_removal hR hfiles htied hfile hplan (hreply _ rfl) hresumed
  | page htied =>
    cases hresumed with
    | page hends => exact hends.settles htied

/-! ### Runs -/

/-- A dialogue in which at most one call waits, and has come to one of its stages. -/
structure InStep (t : Terms) (hidden : Bool) (R : History → VersionedFile → Prop)
    (d : Dialogue) : Prop where
  sound : d.store.Sound
  hideUpload_eq : d.store.hideUpload = hidden
  stage : (d.exchanges = [] ∧ Tied R d.session.table.file d.session.table.history d.store.file? Eq) ∨
    ∃ e, d.exchanges = [e] ∧
      Underway t hidden R d.session.table.file d.session.table.history d.store.file? e

variable {d : Dialogue}

theorem InStep.turned (hd : InStep t hidden R d)
    (hsettles : Settles t hidden R turn d.store.file?) : InStep t hidden R (d.turned [] turn) := by
  refine ⟨hd.sound, hd.hideUpload_eq, ?_⟩
  rcases hsettles with ⟨⟨result, hnext⟩, htied⟩ | ⟨request, pending, hnext, hunder⟩
  · exact .inl ⟨by rw [Dialogue.turned, Turn.joining, hnext], htied⟩
  · exact .inr ⟨_, by rw [Dialogue.turned, Turn.joining, hnext], hunder⟩

/-- An exchange that there is is the only one. -/
theorem InStep.of_exchanges_eq (hd : InStep t hidden R d) {es₁ es₂ : List Exchange} {e : Exchange}
    (h : d.exchanges = es₁ ++ e :: es₂) :
    es₁ = [] ∧ es₂ = [] ∧
      Underway t hidden R d.session.table.file d.session.table.history d.store.file? e := by
  rcases hd.stage with ⟨hnil, -⟩ | ⟨e', he, hunder⟩
  · exact absurd (h.symm.trans hnil) (by simp)
  · rw [he] at h
    rcases List.append_eq_singleton_iff.1 h.symm with ⟨hes₁, hcons⟩ | ⟨-, hnil⟩
    · obtain ⟨rfl, hes₂⟩ := List.cons.inj hcons
      exact ⟨hes₁, hes₂, hunder⟩
    · exact absurd hnil (by simp)

/-- A filter that is refused because another one is under way changes nothing. -/
theorem begin_filter_of_filtering {c : Call} (hc : c.isFilter = true)
    (hfiltering : s.filtering = true) : ∃ result, c.begin s = ⟨s, [], .returned result⟩ := by
  have hbegun := begun (s := s) c
  generalize c.begin s = turn at hbegun ⊢
  cases hbegun with
  | stays => exact ⟨_, rfl⟩
  | views hview => cases c <;> simp_all [Call.isFilter, Call.IsView]
  | filters hfile hopen => exact absurd (hfiltering.symm.trans hopen) (by simp)
  | _ => exact absurd hc (by simp [Call.isFilter])

/-- **Acts.** Acts on the terms keep the dialogue in step. -/
theorem InStep.after (hd : InStep t hidden R d) (hR : Upheld t hidden R) {a : Dialogue.Act}
    (ha : t.Permits d a) : InStep t hidden R (d.after a) := by
  have hmoved := d.moved a
  generalize d.after a = d' at hmoved ⊢
  cases hmoved with
  | idle => exact hd
  | @called c =>
    obtain ⟨halone, hc⟩ := ha
    rcases hd.stage with ⟨hnil, htied⟩ | ⟨e, he, hunder⟩
    · rw [hnil]
      exact hd.turned (settles_begin hR htied hc)
    · -- another call waits, so this one is a filter that finds the gate shut
      obtain ⟨hfilter, hfiltering⟩ := halone.resolve_left (by simp [he])
      obtain ⟨result, hbegin⟩ := begin_filter_of_filtering hfilter hfiltering
      rw [hbegin]
      exact ⟨hd.sound, hd.hideUpload_eq, hd.stage⟩
  -- the one call that waits is served, or goes on
  | @served es₁ es₂ pending request h =>
    obtain ⟨rfl, rfl, hunder⟩ := hd.of_exchanges_eq h
    refine ⟨hd.sound.respond request, (Store.hideUpload_respond ..).trans hd.hideUpload_eq, .inr ?_⟩
    simp only [Terms.Permits, h] at ha
    exact ⟨_, rfl, hunder.serve hd.hideUpload_eq ha⟩
  | @delivered es₁ es₂ pending request reply h =>
    obtain ⟨rfl, rfl, hunder⟩ := hd.of_exchanges_eq h
    exact hd.turned (settles_resume hR hd.sound hunder)
  -- no call is given up on these terms, and a planted fault touches neither file nor history
  | cancelled => exact absurd ha id
  | planted => exact ⟨hd.sound, hd.hideUpload_eq, hd.stage⟩

/-- **Runs.** A relation that is upheld on some terms holds in every run on these terms. -/
theorem InStep.of_keeps {settings : Settings} {acts : List Dialogue.Act}
    (hR : Upheld t d.store.hideUpload R) (hfresh : d.Fresh settings)
    (hkeeps : d.Keeps t.Permits acts) : InStep t d.store.hideUpload R (d.afterAll acts) := by
  have hfile : d.session.table.file = none := by rw [hfresh.table_eq]
  have hstart : InStep t d.store.hideUpload R d :=
    ⟨hfresh.reachable.sound, rfl, .inl ⟨hfresh.exchanges_eq, .of_file_eq_none hfile⟩⟩
  exact hkeeps.induction (fun _ _ hd ha => hd.after hR ha) hstart

/-- A call that has not changed the file leaves the history in step with it. -/
theorem Underway.tied {e : Exchange} (hunder : Underway t hidden R file h files e)
    (hunrecorded : e.unrecorded = false) (hbehind : e.behind = false) :
    Tied R file h files Eq := by
  cases hunder with
  | filtered => exact absurd hunrecorded (by simp [Exchange.unrecorded])
  | numbering => exact absurd hunrecorded (by simp [Exchange.unrecorded])
  | removed => exact absurd hbehind (by simp [Exchange.behind])
  | relisting => exact absurd hbehind (by simp [Exchange.behind])
  | _ => assumption

/-- Where no call waits that has changed the file, the history of the file that is open is in the
relation with it. -/
theorem InStep.exists_file? (hd : InStep t hidden R d)
    (hlevel : ∀ e ∈ d.exchanges, e.unrecorded = false ∧ e.behind = false)
    {id : FileNumber} (hfile : d.session.table.file = some id) :
    ∃ f, d.store.file? id = some f ∧ f.Sound ∧ d.session.table.history.Follows f ∧
      R d.session.table.history f := by
  have htied : Tied R d.session.table.file d.session.table.history d.store.file? Eq := by
    rcases hd.stage with ⟨-, htied⟩ | ⟨e, he, hunder⟩
    · exact htied
    · obtain ⟨hunrecorded, hbehind⟩ := hlevel e (he ▸ List.mem_singleton_self e)
      exact hunder.tied hunrecorded hbehind
  obtain ⟨f, f', hf, hsound, hfollows, hRf, heq⟩ := htied id hfile
  subst heq
  exact ⟨f, hf, hsound, hfollows, hRf⟩

end Tabula.Session
