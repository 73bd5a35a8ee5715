import Tabula.Proofs.Session.Following
import Tabula.Proofs.Session.Dialogue
import Tabula.Proofs.Session.Turns

/-!
# Where versions come from

Several files may be opened one after another, and calls for one of them may still wait when another
one is open. Here every version of the history is followed back to where its rows and its
description come from: to the file that is open, which had such a version at some time of the run
(`Dialogue.Had`), or to the table that is shown without a file.

The answers to filters and deletions do no harm, for all that follows from them is that a listing is
asked for. The listings do: they are taken for listings of the file that is open when they arrive,
and if that is another one, it gets the versions of the first
(`contents_of_crossed`). So what is said here is said of runs in which such a listing arrives
while its file is open, which may have been closed and opened again meanwhile.
-/

namespace Tabula

/-- The rows of a version, and how it came about. -/
abbrev Content := List Row × String

/-- What a version holds. -/
def Version.content (v : Version) : Content :=
  (v.dataset.rows, v.description)

/-- What a version of a file holds. -/
def FileVersion.content (v : FileVersion) : Content :=
  (v.dataset.rows, v.description)

/-- Whether a file has a version that holds this. -/
def Store.Holds (s : Store) (id : FileNumber) (c : Content) : Prop :=
  ∃ f, s.file? id = some f ∧ ∃ v ∈ f.versions, v.content = c

namespace History

/-- What the versions hold, oldest version first. -/
def contents (h : History) : List Content :=
  h.versions.map Version.content

/-- A history whose versions come from somewhere. The first one does so as an upload. -/
structure From (P : Content → Prop) (h : History) : Prop where
  contents : ∀ c ∈ h.contents, P c
  upload : ∀ c, h.contents.head? = some c → P (c.1, uploadDescription)

variable {P : Content → Prop} {h h' : History} {f : VersionedFile} {upload : Option Dataset}
  {number : VersionNumber}

theorem From.upload? (hh : h.From P) {v : Version} (hv : h.upload? = some v) :
    P (v.dataset.rows, uploadDescription) :=
  hh.upload v.content <| by
    rw [History.contents, List.head?_map, show h.versions.head? = some v from hv]
    rfl

theorem From.takeOver {hidden : Bool} (hf : f.Sound) (hP : ∀ v ∈ f.versions, P v.content)
    (hup : ∀ d, upload = some d → P (d.rows, uploadDescription))
    (hok : h.takeOver (f.listing hidden) upload = .ok h') : h'.From P := by
  obtain ⟨first, hfirst, rfl⟩ := (takeOver_listing_eq_ok_iff hf).1 hok
  have hothers : ∀ c ∈ (f.others.map f.shown).map Version.content, P c := by
    intro c hc
    rw [List.map_map] at hc
    obtain ⟨v, hv, rfl⟩ := List.mem_map.1 hc
    exact hP v (List.mem_cons_of_mem _ hv)
  -- the first version is the upload, listed or put back
  obtain ⟨hcontent, hdescription⟩ : P first.content ∧ first.description = uploadDescription := by
    rcases front_cases hfirst with rfl | ⟨dataset, rfl, rfl⟩
    · exact ⟨hP f.first List.mem_cons_self, hf.first_description⟩
    · exact ⟨hup dataset rfl, rfl⟩
  refine ⟨fun c hc => ?_, fun c hc => ?_⟩
  · rcases List.mem_cons.1 hc with rfl | hc
    · exact hcontent
    · exact hothers c hc
  · obtain rfl : first.content = c := Option.some.inj hc
    rw [← hdescription]
    exact hcontent

theorem From.older? (hh : h.From P) (hok : h.older? = some h') : h'.From P := by
  obtain ⟨-, -, rfl⟩ := older?_eq_some_iff.1 hok
  exact ⟨hh.contents, hh.upload⟩

theorem From.newer? (hh : h.From P) (hok : h.newer? = some h') : h'.From P := by
  obtain ⟨-, rfl⟩ := newer?_eq_some_iff.1 hok
  exact ⟨hh.contents, hh.upload⟩

theorem From.appendAs {dataset : Dataset} {description : String} (hh : h.From P)
    (hP : P (dataset.rows, description)) (hok : h.appendAs number dataset description = .ok h') :
    h'.From P := by
  obtain ⟨hcontents, hhead⟩ := map_appendAs (g := Version.content) (fun _ _ => rfl) hok
  refine ⟨fun c hc => ?_, fun c hc => hh.upload c (hhead ▸ hc)⟩
  rw [History.contents, hcontents] at hc
  rcases List.mem_append.1 hc with hc | hc
  · exact hh.contents c (List.mem_of_mem_take hc)
  · obtain rfl := List.mem_singleton.1 hc
    exact hP

theorem From.remove {removal : Removal} (hh : h.From P) (hok : h.remove removal = .ok h') :
    h'.From P := by
  obtain ⟨i, v, -, -, rfl⟩ := remove_eq_ok_iff.1 hok
  have hcontents : (h.without (i + 1) v.isCurrent).contents = h.contents.eraseIdx (i + 1) :=
    map_without (fun _ _ => rfl) h (i + 1) v.isCurrent
  refine ⟨fun c hc => hh.contents c ?_, fun c hc => hh.upload c ?_⟩
  · rw [hcontents] at hc
    exact List.mem_of_mem_eraseIdx hc
  · rwa [hcontents, head?_eraseIdx_succ] at hc

/-- There is no other version to go to, and none that may be taken out. -/
theorem length_of_moved (hok : h.older? = some h' ∨ h.newer? = some h' ∨
    ∃ removal : Removal, h.remove removal = .ok h') : 0 < h.position ∨ 1 < h.versions.length := by
  rcases hok with hok | hok | ⟨removal, hok⟩
  · obtain ⟨-, hpos, -⟩ := older?_eq_some_iff.1 hok
    exact .inl hpos
  · obtain ⟨hlt, -⟩ := newer?_eq_some_iff.1 hok
    exact .inr (Nat.lt_of_le_of_lt (Nat.le_add_left 1 _) hlt)
  · obtain ⟨i, v, -, hv, -⟩ := remove_eq_ok_iff.1 hok
    obtain ⟨hlt, -⟩ := List.getElem?_eq_some_iff.1 hv
    exact .inr (Nat.lt_of_le_of_lt (Nat.le_add_left 1 i) hlt)

end History

namespace Session

/-! ### What comes from a file -/

/-- A table whose versions come from the file that is open, or from a table that was shown. -/
inductive Owned (P : FileNumber → Content → Prop) (Q : Dataset → Prop) :
    Option FileNumber → History → Prop where
  | file {id : FileNumber} {h : History} (hh : h.From (P id)) : Owned P Q (some id) h
  | nothing : Owned P Q none {}
  | upload {dataset : Dataset} (hQ : Q dataset) : Owned P Q none (.start dataset)

/-- The listing of a file, as it is or as it was. -/
def Lists (P : Content → Prop) (entries : List Entry) : Prop :=
  ∃ (f : VersionedFile) (hidden : Bool), f.Sound ∧ (∀ v ∈ f.versions, P v.content) ∧
    entries = f.listing hidden

/-- A call that waits with what comes from the file that it is about. -/
inductive Exchange.From (P : FileNumber → Content → Prop) : Exchange → Prop where
  | connectListing {id : FileNumber} {reply : Option Reply}
    (hreply : ∀ entries, reply = some (.ok (.listing entries)) → Lists (P id) entries) :
    Exchange.From P ⟨.connectListing id, .listing id, reply⟩
  | connectUpload {id : FileNumber} {entries : List Entry} {reply : Option Reply}
    (hentries : Lists (P id) entries)
    (hreply : ∀ rows, reply = some (.ok (.rows rows)) → P id (rows, uploadDescription)) :
    Exchange.From P ⟨.connectUpload id entries, .upload id, reply⟩
  | filterResult {id : FileNumber} {query : String} {reply : Option Reply}
    (hreply : ∀ result, reply = some (.ok (.filtered result)) →
      P id (result.rows, result.description)) :
    Exchange.From P ⟨.filterResult id, .filter id query, reply⟩
  | filterNumber {id : FileNumber} {result : FilterResult} {reply : Option Reply}
    (hresult : P id (result.rows, result.description)) :
    Exchange.From P ⟨.filterNumber result, .listing id, reply⟩
  | removalAnswer {id : FileNumber} {number : VersionNumber} {removal : Removal}
    {upload : Option Dataset} {reply : Option Reply}
    (hupload : ∀ d, upload = some d → P id (d.rows, uploadDescription)) :
    Exchange.From P ⟨.removalAnswer id removal upload, .remove id number, reply⟩
  | removalListing {id : FileNumber} {removal : Removal} {upload : Option Dataset}
    {reply : Option Reply} (hupload : ∀ d, upload = some d → P id (d.rows, uploadDescription))
    (hreply : ∀ entries, reply = some (.ok (.listing entries)) → Lists (P id) entries) :
    Exchange.From P ⟨.removalListing removal upload, .listing id, reply⟩
  | page {id : FileNumber} {index size : Nat} {ticket : Ticket} {reply : Option Reply} :
    Exchange.From P ⟨.page ticket, .page id index size, reply⟩

variable {P : FileNumber → Content → Prop} {Q : Dataset → Prop} {s : Session} {st : Store}
  {turn : Turn} {file : Option FileNumber} {h : History} {id : FileNumber}

theorem Owned.from (ho : Owned P Q (some id) h) : h.From (P id) := by
  cases ho with
  | file hh => exact hh

/-- The upload of the file that is open. -/
theorem Owned.upload_rows (ho : Owned P Q (some id) h) {d : Dataset}
    (hd : h.upload?.map Version.dataset = some d) : P id (d.rows, uploadDescription) := by
  obtain ⟨v, hv, rfl⟩ := Option.map_eq_some_iff.1 hd
  exact ho.from.upload? hv

/-- What a turn leaves, where all comes from somewhere. -/
structure Traced (P : FileNumber → Content → Prop) (Q : Dataset → Prop) (turn : Turn) : Prop where
  owned : Owned P Q turn.session.table.file turn.session.table.history
  waits : ∀ request pending, turn.next = .waiting request pending →
    Exchange.From P ⟨pending, request, none⟩

theorem Turn.Ends.traced (hends : turn.Ends file h) (ho : Owned P Q file h) : Traced P Q turn := by
  refine ⟨?_, fun request pending hnext => ?_⟩
  · rw [hends.file_eq, hends.history_eq]
    exact ho
  · obtain ⟨result, hreturned⟩ := hends.returned
    exact absurd (hreturned.symm.trans hnext) (by simp)

/-- A table without a file has one version, which is neither left nor deleted. -/
theorem Owned.eq_some_of_moved (ho : Owned P Q file h) {h' : History}
    (hok : h.older? = some h' ∨ h.newer? = some h' ∨
      ∃ removal : Removal, h.remove removal = .ok h') : ∃ id, file = some id := by
  cases ho with
  | file => exact ⟨_, rfl⟩
  | nothing => exact absurd (History.length_of_moved hok) (by simp)
  | upload hQ => exact absurd (History.length_of_moved hok) (by simp [History.start])

/-- **First turns.** A call leaves a table that comes from somewhere when it begins. -/
theorem traced_begin {c : Call} (ho : Owned P Q s.table.file s.table.history)
    (hc : ∀ dataset, c = .showTable dataset → Q dataset) : Traced P Q (c.begin s) := by
  have hbegun := begun (s := s) c
  generalize c.begin s = turn at hbegun ⊢
  cases hbegun with
  | stays => exact ⟨ho, by simp⟩
  | views hview hviews =>
    refine ⟨by rw [hviews.file_eq, hviews.history_eq]; exact ho, fun request pending hnext => ?_⟩
    rcases hviews.next with ⟨result, hreturned⟩ | ⟨id, index, size, t, hwaiting⟩
    · exact absurd (hreturned.symm.trans hnext) (by simp)
    · obtain ⟨rfl, rfl⟩ := Next.waiting.inj (hwaiting.symm.trans hnext)
      exact .page
  -- a table that is shown has no file
  | @shows dataset turn hends => exact hends.traced (.upload (hc dataset rfl))
  | connects => exact ⟨ho, by rintro _ _ ⟨⟩; exact .connectListing (by simp)⟩
  -- whoever has a version to go to shows a file, and goes on showing it
  | older hok hends =>
    obtain ⟨id, hfile⟩ := ho.eq_some_of_moved (.inl hok)
    rw [hfile] at ho hends
    exact hends.traced (.file (ho.from.older? hok))
  | newer hok hends =>
    obtain ⟨id, hfile⟩ := ho.eq_some_of_moved (.inr (.inl hok))
    rw [hfile] at ho hends
    exact hends.traced (.file (ho.from.newer? hok))
  | filters hfile hopen => exact ⟨ho, by rintro _ _ ⟨⟩; exact .filterResult (by simp)⟩
  -- a deletion takes the upload of the file with it
  | removes hfile hplan =>
    refine ⟨ho, ?_⟩
    rintro _ _ ⟨⟩
    rw [hfile] at ho
    exact .removalAnswer fun d hd => ho.upload_rows hd
  -- without a file there is one version, which cannot be deleted
  | removesHere hfile hplan hok hends =>
    obtain ⟨id, hsome⟩ := ho.eq_some_of_moved (.inr (.inr ⟨_, hok⟩))
    exact absurd (hfile.symm.trans hsome) (by simp)

/-- The result of a filter is recorded in the history of the file that it is a filter of. -/
theorem traced_record {result : FilterResult} {reply : Reply}
    (ho : Owned P Q s.table.file s.table.history) (hfile : s.table.file = some id)
    (hresult : P id (result.rows, result.description))
    (hresumed : Resumed s (.filterNumber result) reply turn) : Traced P Q turn := by
  cases hresumed with
  | recordFails herror hends => exact hends.traced ho
  | records hok hends =>
    rw [hfile] at ho hends
    obtain ⟨happend, -⟩ := of_appended_eq_ok hok
    refine hends.traced (.file (ho.from.appendAs ?_ happend))
    rw [rows_resultDataset]
    exact hresult

/-- The listing of a file is taken over by the history of that file. -/
theorem traced_afterRemoval {removal : Removal} {upload : Option Dataset} {reply : Reply}
    (ho : Owned P Q s.table.file s.table.history) (hfile : s.table.file = some id)
    (hupload : ∀ d, upload = some d → P id (d.rows, uploadDescription))
    (hreply : ∀ entries, reply = .ok (.listing entries) → Lists (P id) entries)
    (hresumed : Resumed s (.removalListing removal upload) reply turn) : Traced P Q turn := by
  cases hresumed with
  | refreshes hok hends =>
    rw [hfile] at hends
    obtain ⟨f, hidden, hf, hP, rfl⟩ := hreply _ rfl
    exact hends.traced (.file (.takeOver hf hP hupload hok))
  | removesHere hno hends =>
    rw [hfile] at ho hends
    cases hok : s.table.history.remove removal with
    | error fault =>
      rw [hok] at hends
      exact hends.traced ho
    | ok history =>
      rw [hok] at hends
      exact hends.traced (.file (ho.from.remove hok))

/-- **Later turns.** A call leaves such a table when it goes on, if its listing arrives while its
file is open. -/
theorem traced_resume {pending : Pending} {request : Request} {reply : Reply}
    (ho : Owned P Q s.table.file s.table.history)
    (he : Exchange.From P ⟨pending, request, some reply⟩)
    (hhome : ∀ id, request = .listing id → (∃ result, pending = .filterNumber result) ∨
      (∃ removal upload, pending = .removalListing removal upload) → s.table.file = some id) :
    Traced P Q (.ofStep (s.resume pending reply)) := by
  have hresumed := resumed (s := s) pending reply
  generalize Turn.ofStep (s.resume pending reply) = turn at hresumed ⊢
  -- by what the request was for, and then by what the call makes of the reply
  cases he with
  | connectListing hreply =>
    cases hresumed with
    | connectFails hends => exact hends.traced ho
    | asksUpload => exact ⟨ho, by rintro _ _ ⟨⟩; exact .connectUpload (hreply _ rfl) (by simp)⟩
    | connects hup hok hends =>
      obtain ⟨f, hidden, hf, hP, rfl⟩ := hreply _ rfl
      refine hends.traced (.file (.takeOver hf hP (fun d hd => ?_) hok))
      rcases hup with rfl | rfl
      · -- the upload is listed
        exact absurd hd (by simp)
      · -- the upload is taken from the history only if that is of the same file
        unfold knownUpload? at hd
        split at hd
        · next hfile =>
          rw [hfile] at ho
          exact ho.upload_rows hd
        · exact absurd hd (by simp)
  | connectUpload hentries hreply =>
    cases hresumed with
    | uploadFails hends => exact hends.traced ho
    | connectsWith hok hends =>
      obtain ⟨f, hidden, hf, hP, rfl⟩ := hentries
      refine hends.traced (.file (.takeOver hf hP (fun d hd => ?_) hok))
      obtain rfl := Option.some.inj hd
      exact hreply _ rfl
  -- the result of a filter is of the file that it was sent to, which is still open when it is
  -- recorded
  | filterResult hreply =>
    cases hresumed with
    | filterFails hno hends => exact hends.traced ho
    | filtered => exact ⟨ho, by rintro _ _ ⟨⟩; exact .filterNumber (hreply _ rfl)⟩
  | filterNumber hresult => exact traced_record ho (hhome _ rfl (.inl ⟨_, rfl⟩)) hresult hresumed
  -- so is that file when the listing behind a deletion arrives
  | removalAnswer hupload =>
    cases hresumed with
    | removalFails hno hends => exact hends.traced ho
    | removed => exact ⟨ho, by rintro _ _ ⟨⟩; exact .removalListing hupload (by simp)⟩
  | removalListing hupload hreply =>
    refine traced_afterRemoval ho (hhome _ rfl (.inr ⟨_, _, rfl⟩)) hupload (fun entries hr => ?_)
      hresumed
    exact hreply entries (congrArg some hr)
  | page =>
    cases hresumed with
    | page hends => exact hends.traced ho

@[simp] theorem table_cancel (s : Session) (pending : Pending) :
    (s.cancel pending).table = s.table := by
  unfold cancel
  split <;> rfl

/-! ### Requests -/

/-- **Requests.** What the store answers comes from the file that it is asked about. -/
theorem Exchange.From.respond {pending : Pending} {request : Request}
    (he : Exchange.From P ⟨pending, request, none⟩) (hst : st.Sound)
    (hP : ∀ id c, st.Holds id c → P id c)
    (hP' : ∀ id c, (st.respond request).1.Holds id c → P id c) :
    Exchange.From P ⟨pending, request, some (st.respond request).2⟩ := by
  have hversions {id : FileNumber} {f : VersionedFile} (hf : st.file? id = some f) :
      ∀ v ∈ f.versions, P id v.content := fun v hv => hP id v.content ⟨f, hf, v, hv, rfl⟩
  have hlists {id : FileNumber} {f : VersionedFile} (hf : st.file? id = some f) :
      Lists (P id) (f.listing st.hideUpload) := ⟨f, _, hst id f hf, hversions hf, rfl⟩
  have hresponded := st.responded request
  generalize st.respond request = result at hresponded hP' ⊢
  -- only the result of a filter is new; all else was in the file before the request
  cases he with
  | connectListing =>
    refine .connectListing fun entries hentries => ?_
    cases hresponded with
    | failed => exact absurd hentries (by simp)
    | listing hf =>
      obtain rfl : _ = entries := by simpa using hentries
      exact hlists hf
  | connectUpload hentries =>
    refine .connectUpload hentries fun rows hrows => ?_
    cases hresponded with
    | failed => exact absurd hrows (by simp)
    | upload hf =>
      obtain rfl : _ = rows := by simpa using hrows
      rw [← (hst _ _ hf).first_description]
      exact hversions hf _ List.mem_cons_self
  | @filterResult id query =>
    refine .filterResult fun result hresult => ?_
    cases hresponded with
    | failed => exact absurd hresult (by simp)
    | @filtered _ f _ description dataset hf hrun =>
      -- the file has the result by now
      obtain rfl : _ = result := by simpa using hresult
      refine hP' id _ ⟨f.push dataset description, ?_, ⟨f.next, dataset, description⟩, by simp, rfl⟩
      exact Store.file?_setFile_self (s := (st.admitted .filter).1) hf
  | filterNumber hresult => exact .filterNumber hresult
  | removalAnswer hupload => exact .removalAnswer hupload
  | removalListing hupload =>
    refine .removalListing hupload fun entries hentries => ?_
    cases hresponded with
    | failed => exact absurd hentries (by simp)
    | listing hf =>
      obtain rfl : _ = entries := by simpa using hentries
      exact hlists hf
  | page => exact .page

/-! ### Runs -/

namespace Dialogue

/-- Whether some version of a file held this at some time of a run. -/
def Had (d : Dialogue) : List Act → FileNumber → Content → Prop
  | [], id, c => d.store.Holds id c
  | a :: acts, id, c => d.store.Holds id c ∨ (d.after a).Had acts id c

/-- The policy of clients whose filters and deletions go on only while their file is open. The first
answer to them may come whenever it likes, the listing that follows may not. -/
def AtHome (d : Dialogue) : Act → Prop
  | .deliver i =>
    match d.exchanges[i]? with
    | some ⟨.filterNumber _, .listing id, _⟩ | some ⟨.removalListing .., .listing id, _⟩ =>
      d.session.table.file = some id
    | _ => True
  | _ => True

instance (d : Dialogue) (a : Act) : Decidable (d.AtHome a) := by
  unfold AtHome
  split
  · split <;> infer_instance
  · infer_instance

/-- A dialogue in which everything comes from somewhere. -/
structure Traced (P : FileNumber → Content → Prop) (Q : Dataset → Prop) (d : Dialogue) : Prop where
  sound : d.store.Sound
  holds : ∀ id c, d.store.Holds id c → P id c
  owned : Owned P Q d.session.table.file d.session.table.history
  exchanges : ∀ e ∈ d.exchanges, Exchange.From P e

variable {d : Dialogue} {a : Act} {acts : List Act}

theorem Traced.turned (hd : d.Traced P Q) {others : List Exchange}
    (hothers : ∀ e ∈ others, Exchange.From P e) (hturn : Session.Traced P Q turn) :
    (d.turned others turn).Traced P Q := by
  refine ⟨hd.sound, hd.holds, hturn.owned, ?_⟩
  show ∀ e ∈ turn.joining others, Exchange.From P e
  unfold Turn.joining
  split
  · exact hothers
  · next hnext => exact List.forall_mem_cons.2 ⟨hturn.waits _ _ hnext, hothers⟩

/-- **Acts.** What the policy accepts keeps everything traced. -/
theorem Traced.after (hd : d.Traced P Q) (hP : ∀ id c, (d.after a).store.Holds id c → P id c)
    (hQ : ∀ dataset, a = .call (.showTable dataset) → Q dataset) (ha : d.AtHome a) :
    (d.after a).Traced P Q := by
  have hmoved := d.moved a
  generalize d.after a = d' at hmoved hP ⊢
  cases hmoved with
  | idle => exact hd
  | called =>
    exact hd.turned hd.exchanges
      (traced_begin hd.owned fun dataset hc => hQ dataset (congrArg Act.call hc))
  | served h =>
    obtain ⟨he, hothers⟩ := forall_mem_append_cons.1 (h ▸ hd.exchanges)
    exact ⟨hd.sound.respond _, hP, hd.owned,
      forall_mem_append_cons.2 ⟨he.respond hd.sound hd.holds hP, hothers⟩⟩
  | @delivered es₁ es₂ pending request reply h =>
    obtain ⟨he, hothers⟩ := forall_mem_append_cons.1 (h ▸ hd.exchanges)
    refine hd.turned hothers (traced_resume hd.owned he ?_)
    -- the policy is about these turns alone: a filter or a deletion goes on while its file is open
    simp only [AtHome, getElem?_of_exchanges_eq h] at ha
    rintro id rfl (⟨result, rfl⟩ | ⟨removal, upload, rfl⟩)
    · exact ha
    · exact ha
  | cancelled h =>
    obtain ⟨-, hothers⟩ := forall_mem_append_cons.1 (h ▸ hd.exchanges)
    refine ⟨hd.sound, hP, ?_, hothers⟩
    rw [table_cancel]
    exact hd.owned
  | planted => exact ⟨hd.sound, hP, hd.owned, hd.exchanges⟩

/-- What a run preserves that has all its tables and all versions of its files traced. -/
theorem Traced.afterAll (hd : d.Traced P Q) (hP : ∀ id c, d.Had acts id c → P id c)
    (hQ : ∀ dataset, .call (.showTable dataset) ∈ acts → Q dataset) (hkeeps : d.Keeps AtHome acts) :
    (d.afterAll acts).Traced P Q := by
  induction acts generalizing d with
  | nil => exact hd
  | cons a acts ih =>
    have hhad : ∀ id c, (d.after a).Had acts id c → P id c := fun id c h => hP id c (.inr h)
    have hholds : ∀ id c, (d.after a).store.Holds id c → P id c := by
      intro id c h
      refine hhad id c ?_
      cases acts with
      | nil => exact h
      | cons a' acts => exact .inl h
    have hafter := hd.after hholds (fun dataset h => hQ dataset (h ▸ List.mem_cons_self)) hkeeps.1
    exact ih hafter hhad (fun dataset h => hQ dataset (List.mem_cons_of_mem a h)) hkeeps.2

end Dialogue

/-- The answer to a filter or a deletion touches no table, whichever file is open. -/
theorem table_resume_filterResult (s : Session) (file : FileNumber) (reply : Reply) :
    (s.resume (.filterResult file) reply).session.table = s.table := by
  rcases reply with fault | (_ | _ | _ | _ | _) <;> rfl

theorem table_resume_removalAnswer (s : Session) (file : FileNumber) (removal : Removal)
    (upload : Option Dataset) (reply : Reply) :
    (s.resume (.removalAnswer file removal upload) reply).session.table = s.table := by
  rcases reply with fault | (_ | _ | _ | _ | _) <;> rfl

/-- **Where versions come from.** Whatever is called, answered, failed and given up, in whatever
order: if filters and deletions go on only while their file is open, then every version of the
history is one that the file which is open had at some time, or there is no file, and the history is
that of a table that was shown. The first answer to a filter or a deletion touches no table in any
case. -/
theorem had_of_keeps {settings : Settings} {d : Dialogue} {acts : List Dialogue.Act}
    (hfresh : d.Fresh settings) (hkeeps : d.Keeps Dialogue.AtHome acts) :
    (match (d.afterAll acts).session.table.file with
      | some id => ∀ v ∈ (d.afterAll acts).session.table.history.versions, d.Had acts id v.content
      | none => (d.afterAll acts).session.table.history = {} ∨
          ∃ dataset, .call (.showTable dataset) ∈ acts ∧
            (d.afterAll acts).session.table.history = .start dataset) ∧
      ∀ i e, (d.afterAll acts).exchanges[i]? = some e →
        (∃ file, e.pending = .filterResult file) ∨
          (∃ file removal upload, e.pending = .removalAnswer file removal upload) →
        ((d.afterAll acts).after (.deliver i)).session.table = (d.afterAll acts).session.table := by
  -- before the acts, the history is empty and no call is under way
  have hstart : d.Traced (d.Had acts) fun dataset => .call (.showTable dataset) ∈ acts := by
    refine ⟨hfresh.reachable.sound, fun id c hholds => ?_, ?_, by simp [hfresh.exchanges_eq]⟩
    · cases acts with
      | nil => exact hholds
      | cons a acts => exact .inl hholds
    · rw [hfresh.table_eq]
      exact .nothing
  refine ⟨?_, fun i e hi he => ?_⟩
  · have howned := (hstart.afterAll (fun _ _ h => h) (fun _ h => h) hkeeps).owned
    generalize (d.afterAll acts).session.table.file = file at howned ⊢
    generalize (d.afterAll acts).session.table.history = history at howned ⊢
    cases howned with
    | file hh => exact fun v hv => hh.contents v.content (List.mem_map_of_mem hv)
    | nothing => exact .inl rfl
    | @upload dataset hshown => exact .inr ⟨dataset, hshown, rfl⟩
  · -- the first answer leads to a second request, whatever it is
    have hmoved := (d.afterAll acts).moved (.deliver i)
    generalize (d.afterAll acts).after (.deliver i) = d' at hmoved ⊢
    cases hmoved with
    | idle => rfl
    | delivered h =>
      obtain rfl := Option.some.inj ((Dialogue.getElem?_of_exchanges_eq h).symm.trans hi)
      rcases he with ⟨file, rfl⟩ | ⟨file, removal, upload, rfl⟩
      · exact table_resume_filterResult _ file _
      · exact table_resume_removalAnswer _ file removal upload _

/-- A store with another file, without rows. -/
def sampleWithOther : Dialogue :=
  { Dialogue.sample with store := (Dialogue.sample.store.keep {}).1 }

/-- A filter that is sent, answered and recorded while its file is open, closed and open again. -/
def reopenedActs : List Dialogue.Act :=
  [.call (.connect 1), .serve 0, .deliver 0, .call (.filter "first"),
   .call (.connect 2), .serve 0, .deliver 0,
   .call (.connect 1), .serve 0, .serve 1, .deliver 1, .deliver 1, .serve 0, .deliver 0]

theorem had_of_reopenedActs :
    sampleWithOther.Keeps Dialogue.AtHome reopenedActs ∧
      (sampleWithOther.afterAll reopenedActs).session.table.history.numbers = [1, 2] ∧
        ∀ v ∈ (sampleWithOther.afterAll reopenedActs).session.table.history.versions,
          sampleWithOther.Had reopenedActs 1 v.content := by
  have hfresh : sampleWithOther.Fresh {} := ⟨rfl, Dialogue.fresh_sample.reachable.keep _, rfl⟩
  have hkeeps : sampleWithOther.Keeps Dialogue.AtHome reopenedActs := by decide +kernel
  have hfile : (sampleWithOther.afterAll reopenedActs).session.table.file = some 1 := by
    decide +kernel
  obtain ⟨hhad, -⟩ := had_of_keeps hfresh hkeeps
  rw [hfile] at hhad
  exact ⟨hkeeps, by decide +kernel, hhad⟩

/-- A filter that is recorded when another file is open. -/
def crossedFilterActs : List Dialogue.Act :=
  [.call (.connect 1), .serve 0, .deliver 0, .call (.filter "first"), .serve 0, .deliver 0,
   .call (.connect 2), .serve 0, .deliver 0, .serve 0, .deliver 0]

/-- A deletion that ends when another file is open. -/
def crossedRemovalActs : List Dialogue.Act :=
  [.call (.connect 1), .serve 0, .deliver 0,
   .call (.filter "first"), .serve 0, .deliver 0, .serve 0, .deliver 0,
   .call (.remove 2), .serve 0, .deliver 0,
   .call (.connect 2), .serve 0, .deliver 0, .serve 0, .deliver 0]

/-- Where the listing arrives while another file is open, that file gets a version of the first, or
all of them instead of its own. -/
theorem contents_of_crossed :
    let row : Row := ⟨[("name", .null)], by simp⟩
    (let d := sampleWithOther.afterAll crossedFilterActs
     d.session.table.file = some 2 ∧
      (d.store.file? 2).map (fun f => f.versions.map FileVersion.content) =
        some [([], uploadDescription)] ∧
      d.session.table.history.contents = [([], uploadDescription), ([row], "first")]) ∧
    (let d := sampleWithOther.afterAll crossedRemovalActs
     d.session.table.file = some 2 ∧
      (d.store.file? 2).map (fun f => f.versions.map FileVersion.content) =
        some [([], uploadDescription)] ∧
      d.session.table.history.contents = [([row, row], uploadDescription)]) := by
  decide +kernel

end Session

end Tabula
