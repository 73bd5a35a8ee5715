import Tabula.Proofs.Session.Holdings
import Tabula.Session.Run

/-!
# What a deletion leaves

A deletion of a table on the service ends with a listing, from which the whole history is made anew.
So it has to be asked what becomes of the other versions. They keep their numbers, their rows and
their descriptions, for that is what the listing has of them. Columns it has none; they are taken
from the first row. Wherever there is a row, they are the same as before, since no version that came
from the service was ever made in another way (`Columned`).

What the file has and the history had not comes back with the listing (`loses_of_removed`): the
versions which the history dropped when another one was put behind an older version. A session that
filters nothing but the newest version gets back none.
-/

namespace Tabula

/-- A dataset that has the columns of its first row, if it has rows. -/
def Dataset.Columned (d : Dataset) : Prop :=
  d.rows ≠ [] → d = .ofRows d.rows

theorem Dataset.columned_ofRows (rows : List Row) : (ofRows rows).Columned :=
  fun _ => rfl

theorem Dataset.Columned.eq_of_rows_eq {d d' : Dataset} (hd : d.Columned) (hd' : d'.Columned)
    (hrows : d.rows = d'.rows) (hne : d.rows ≠ []) : d = d' := by
  rw [hd hne, hd' (hrows ▸ hne), hrows]

namespace History

/-- The datasets of the versions, oldest version first. -/
def datasets (h : History) : List Dataset :=
  h.versions.map Version.dataset

/-- A history all of whose versions have the columns of their first rows. -/
def Columned (h : History) : Prop :=
  ∀ d ∈ h.datasets, d.Columned

variable {h h' : History} {entries : List Entry} {upload : Option Dataset}

theorem Columned.upload? (hh : h.Columned) {d : Dataset}
    (hd : h.upload?.map Version.dataset = some d) : d.Columned := by
  obtain ⟨v, hv, rfl⟩ := Option.map_eq_some_iff.1 hd
  exact hh _ (List.mem_map_of_mem (List.mem_of_head? hv))

/-- Whatever a listing says, the versions that are made of it have the columns of their rows. -/
theorem Columned.takeOver (hup : ∀ d, upload = some d → d.Columned)
    (hok : h.takeOver entries upload = .ok h') : h'.Columned := by
  obtain ⟨-, versions, hwith, rfl⟩ := takeOver_eq_ok_iff.1 hok
  have hlisted : ∀ v ∈ listed entries, v.dataset.Columned := by
    intro v hv
    obtain ⟨e, -, rfl⟩ := mem_listed.1 hv
    exact Dataset.columned_ofRows e.rows
  have hversions : ∀ v ∈ versions, v.dataset.Columned := by
    obtain ⟨front, rfl, rfl | ⟨dataset, rfl, rfl⟩⟩ := exists_front_of_withUpload_eq_ok hwith
    · exact hlisted
    · exact List.forall_mem_cons.2 ⟨hup dataset rfl, hlisted⟩
  -- the mark is not looked at
  intro d hd
  rw [datasets, map_markOnly fun _ _ => rfl] at hd
  obtain ⟨v, hv, rfl⟩ := List.mem_map.1 hd
  exact hversions v hv

theorem Columned.moved (hh : h.Columned) (hok : h.older? = some h' ∨ h.newer? = some h') :
    h'.Columned := by
  obtain ⟨position, rfl⟩ := exists_position_of_moved hok
  exact hh

theorem Columned.appendAs {number : VersionNumber} {dataset : Dataset} {description : String}
    (hh : h.Columned) (hdataset : dataset.Columned)
    (hok : h.appendAs number dataset description = .ok h') : h'.Columned := by
  obtain ⟨hmap, -⟩ := map_appendAs (g := Version.dataset) (fun _ _ => rfl) hok
  intro d hd
  rw [datasets, hmap] at hd
  rcases List.mem_append.1 hd with hd | hd
  · exact hh d (List.mem_of_mem_take hd)
  · obtain rfl := List.mem_singleton.1 hd
    exact hdataset

theorem Columned.remove {removal : Removal} (hh : h.Columned) (hok : h.remove removal = .ok h') :
    h'.Columned := by
  obtain ⟨i, v, -, -, rfl⟩ := remove_eq_ok_iff.1 hok
  intro d hd
  rw [datasets, map_without fun _ _ => rfl] at hd
  exact hh d (List.mem_of_mem_eraseIdx hd)

/-- A history before and after the deletion of a version from the file. The version is gone, all
others are as they were, but for the columns of those without rows, and what there is beside them
was in the file under a number that the history had not. -/
structure Loses (h h' : History) (f : VersionedFile) (number : VersionNumber) : Prop where
  mem : number ∈ h.numbers
  not_mem : number ∉ h'.numbers
  kept : ∀ v ∈ h.versions, v.number ≠ number →
    ∃ v' ∈ h'.versions, v'.holding = v.holding ∧ (v.dataset.rows ≠ [] → v'.dataset = v.dataset)
  back : ∀ v' ∈ h'.versions, (∃ v ∈ h.versions, v.holding = v'.holding) ∨
    v'.number ∉ h.numbers ∧ ∃ w ∈ f.versions, w.holding = v'.holding

end History

namespace Session

theorem columned_resultDataset (s : Session) (rows : List Row) :
    (s.resultDataset rows).Columned := by
  unfold resultDataset
  split
  · exact fun hne => absurd rfl hne
  · exact Dataset.columned_ofRows rows

/-! ### Columns of versions from the service -/

/-- The upload that a deletion keeps for the listing that will follow. -/
def Pending.upload? : Pending → Option Dataset
  | removalAnswer _ _ upload | removalListing _ upload => upload
  | _ => none

/-- A session whose table has the columns of its rows, if it is on the service. -/
def Columned (s : Session) : Prop :=
  ∀ id, s.table.file = some id → s.table.history.Columned

/-- A turn that leaves such a session, and keeps no other upload. -/
structure Turn.Columned (turn : Turn) : Prop where
  session : turn.session.Columned
  upload : ∀ request pending, turn.next = .waiting request pending →
    ∀ d, pending.upload? = some d → d.Columned

variable {s : Session} {turn : Turn} {file : Option FileNumber} {h : History}

theorem Turn.Ends.columned (hends : turn.Ends file h)
    (hh : ∀ id, file = some id → h.Columned) : turn.Columned := by
  refine ⟨fun id hid => ?_, fun request pending hnext => ?_⟩
  · rw [hends.history_eq]
    exact hh id (hends.file_eq ▸ hid)
  · obtain ⟨result, hreturned⟩ := hends.returned
    exact absurd (hreturned.symm.trans hnext) (by simp)

theorem Turn.columned_begin (hs : s.Columned) (c : Call) : (c.begin s).Columned := by
  have hbegun := begun (s := s) c
  generalize c.begin s = turn at hbegun ⊢
  cases hbegun with
  | stays => exact ⟨hs, by simp⟩
  | views hc hviews =>
    refine ⟨fun id hid => ?_, fun request pending hnext => ?_⟩
    · rw [hviews.history_eq]
      exact hs id (hviews.file_eq ▸ hid)
    · rcases hviews.next with ⟨result, hreturned⟩ | ⟨id, index, size, t, hwaiting⟩
      · exact absurd (hreturned.symm.trans hnext) (by simp)
      · obtain ⟨-, rfl⟩ := Next.waiting.inj (hwaiting.symm.trans hnext)
        simp [Pending.upload?]
  -- a table that is shown may have any columns, but it is not on the service
  | shows hends => exact hends.columned (by simp)
  | connects => exact ⟨hs, by rintro _ _ ⟨⟩; simp [Pending.upload?]⟩
  | older hok hends => exact hends.columned fun id hid => (hs id hid).moved (.inl hok)
  | newer hok hends => exact hends.columned fun id hid => (hs id hid).moved (.inr hok)
  -- the local copy travels with the request for a removal
  | filters hfile hopen => exact ⟨hs, by rintro _ _ ⟨⟩; simp [Pending.upload?]⟩
  | removes hfile hplan => exact ⟨hs, by rintro _ _ ⟨⟩ d hd; exact (hs _ hfile).upload? hd⟩
  | removesHere hfile hplan hok hends => exact hends.columned (by simp)

theorem Turn.columned_resume {pending : Pending} {reply : Reply} (hs : s.Columned)
    (hup : ∀ d, pending.upload? = some d → d.Columned) :
    (Turn.ofStep (s.resume pending reply)).Columned := by
  have hresumed := resumed (s := s) pending reply
  generalize Turn.ofStep (s.resume pending reply) = turn at hresumed ⊢
  cases hresumed with
  -- a listing is taken over with the upload that is known, if the file is the same
  | @connects file entries upload history _ hknown hok hends =>
    refine hends.columned fun _ _ => .takeOver (fun d hd => ?_) hok
    rcases hknown with rfl | rfl
    · exact absurd hd (by simp)
    · unfold knownUpload? at hd
      split at hd
      · next hfile => exact (hs _ hfile).upload? hd
      · exact absurd hd (by simp)
  | asksUpload => exact ⟨hs, by rintro _ _ ⟨⟩; simp [Pending.upload?]⟩
  | connectsWith hok hends =>
    refine hends.columned fun _ _ => .takeOver (fun d hd => ?_) hok
    obtain rfl := Option.some.inj hd
    exact Dataset.columned_ofRows _
  | connectFails hends => exact hends.columned hs
  | uploadFails hends => exact hends.columned hs
  | filtered => exact ⟨hs, by rintro _ _ ⟨⟩; simp [Pending.upload?]⟩
  | filterFails hno hends => exact hends.columned hs
  -- a result keeps the column headings also when it has no rows
  | records hok hends =>
    exact hends.columned fun id hid =>
      (hs id hid).appendAs (s.columned_resultDataset _) (of_appended_eq_ok hok).1
  | recordFails herror hends => exact hends.columned hs
  | removed => exact ⟨hs, by rintro _ _ ⟨⟩ d hd; exact hup d hd⟩
  | removalFails hno hends => exact hends.columned hs
  | refreshes hok hends => exact hends.columned fun _ _ => .takeOver hup hok
  | @removesHere removal _ _ _ hno hends =>
    refine hends.columned fun id hid => ?_
    cases hok : s.table.history.remove removal with
    | error fault => exact hs id hid
    | ok h' => exact (hs id hid).remove hok
  | page hends => exact hends.columned hs

/-- A session with such a table, and the calls that wait. -/
structure System.Columned (y : System) : Prop where
  session : y.session.Columned
  upload : ∀ pending ∈ y.waiting, ∀ d, pending.upload? = some d → d.Columned

theorem System.Columned.after {ps : List Pending} (hturn : turn.Columned)
    (hps : ∀ pending ∈ ps, ∀ d, pending.upload? = some d → d.Columned) :
    (System.after ps turn).Columned := by
  refine ⟨hturn.session, ?_⟩
  unfold System.after
  split
  · exact hps
  · next hnext => exact List.forall_mem_cons.2 ⟨hturn.upload _ _ hnext, hps⟩

/-- **Columns.** Whatever is called, answered, failed and given up: a table that is on the service
has the columns of its rows in every version that has rows. -/
theorem columned_of_reachable {settings : Settings} {y : System} (hy : Reachable settings y) :
    y.Columned := by
  -- on the course of the session: a turn keeps its columns, and so do the copies on the way
  induction hy with
  | @start s hstart =>
    refine ⟨fun id hid => absurd hid ?_, by simp⟩
    rw [eq_of_start hstart]
    simp
  | step _ hstep ih =>
    cases hstep with
    | call c => exact .after (Turn.columned_begin ih.session c) ih.upload
    | @reply s ps₁ ps₂ pending reply =>
      have hmid := ih.upload pending List.mem_append_cons_self
      have hsub := (List.sublist_cons_self pending ps₂).append_left ps₁
      exact .after (Turn.columned_resume ih.session hmid) fun p hp => ih.upload p (hsub.subset hp)
    | @cancel s ps₁ ps₂ pending =>
      have hsub := (List.sublist_cons_self pending ps₂).append_left ps₁
      refine ⟨?_, fun p hp => ih.upload p (hsub.subset hp)⟩
      show (s.cancel pending).Columned
      unfold cancel
      split <;> exact ih.session

/-! ### The deletion -/

theorem status_removalListing (s : Session) (removal : Removal) (upload : Option Dataset)
    (reply : Reply) :
    (s.resume (.removalListing removal upload) reply).status = .done (.ok .removed) := by
  rcases reply with fault | (_ | _ | _ | _ | _) <;> rfl

/-- A deletion that is answered, and so is the request for the listing: the history takes over what
was listed. -/
theorem runToEnd_remove_of_takeOver_eq_ok {st : Store} {id : FileNumber}
    {number : VersionNumber} {removal : Removal} {upload : Option Dataset} {entries : List Entry}
    {h' : History}
    (hasks : s.remove number = s.send (.remove id number) (.removalAnswer id removal upload))
    (hanswer : (st.respond (.remove id number)).2 = .ok .removed)
    (hlisting : ((st.respond (.remove id number)).1.respond (.listing id)).2 =
      .ok (.listing entries))
    (hok : s.table.history.takeOver entries upload = .ok h') :
    (runToEnd st (s.remove number)).result = .ok .removed ∧
      (runToEnd st (s.remove number)).session.table.history = h' := by
  have hlast : s.resume (.removalListing removal upload) (.ok (.listing entries)) = _ :=
    afterRemoval_of_takeOver_eq_ok hok removal
  rw [hasks, runToEnd_of_waiting rfl, hanswer, runToEnd_of_waiting rfl, hlisting]
  show (runToEnd _ { s.resume _ _ with events := _ }).result = _ ∧
    (runToEnd _ { s.resume _ _ with events := _ }).session.table.history = h'
  rw [hlast, runToEnd_of_done rfl]
  exact ⟨rfl, history_display s { s.table with history := h' }⟩

/-- A deletion that succeeds: the file loses the version, and the history takes over what the file
then lists, or does without the version where no listing comes. -/
theorem of_removed {st : Store} {id : FileNumber} {number : VersionNumber} {f : VersionedFile}
    (hfile : s.table.file = some id) (hf : st.file? id = some f) (hsound : f.Sound)
    (hfollows : s.table.history.Follows f)
    (hresult : (runToEnd st (s.remove number)).result = .ok .removed) :
    ∃ removal f' h', s.table.history.planRemoval number = .ok removal ∧
      f.erase number = .ok f' ∧
      (runToEnd st (s.remove number)).session.table.history = h' ∧
      (s.table.history.takeOver (f'.listing st.hideUpload)
          (s.table.history.upload?.map Version.dataset) = .ok h' ∨
        s.table.history.remove removal = .ok h') := by
  unfold remove at hresult ⊢
  cases hplan : s.table.history.planRemoval number with
  | error fault =>
    -- refused before anything is sent
    simp only [hplan] at hresult
    rw [runToEnd_of_done rfl] at hresult
    exact absurd hresult (by simp)
  | ok removal =>
  simp only [hplan, hfile] at hresult ⊢
  rw [runToEnd_of_waiting rfl] at hresult ⊢
  have hresponded := st.responded (.remove id number)
  have hhidden := st.hideUpload_respond (.remove id number)
  generalize st.respond (.remove id number) = answered at hresponded hhidden hresult ⊢
  cases hresponded with
  | failed =>
    rw [runToEnd_of_done rfl] at hresult
    exact absurd hresult (by simp)
  | @removed _ f₀ f' _ hf₀ herase =>
  obtain rfl := Option.some.inj (hf₀.symm.trans hf)
  -- the file has lost the version by now, and is asked for its listing
  have hf' : ((st.admitted .remove).1.setFile id f').file? id = some f' :=
    Store.file?_setFile_self (s := (st.admitted .remove).1) hf
  rw [runToEnd_of_waiting rfl, runToEnd_of_done]
  swap
  · exact status_removalListing ..
  generalize hst : (st.admitted .remove).1.setFile id f' = st' at hf' hhidden
  have hreply : (st'.respond (.listing id)).2 = .ok (.listing (f'.listing st.hideUpload)) ∨
      (st'.respond (.listing id)).2.listing? = none := by
    have hlisting := st'.responded (.listing id)
    generalize st'.respond (.listing id) = answered at hlisting ⊢
    cases hlisting with
    | failed => exact .inr rfl
    | listing hf'' =>
      obtain rfl := Option.some.inj (hf''.symm.trans hf')
      rw [← hhidden]
      exact .inl rfl
  obtain ⟨h', hends, hok⟩ := ends_of_removalListing hfollows (hsound.erase herase) hplan hreply
    (resumed _ (st'.respond (.listing id)).2)
  exact ⟨removal, f', h', rfl, herase, hends.history_eq, hok.imp_right And.right⟩

/-- Whether the listing comes or not, the history keeps its other holdings and gets none that the
file has not. -/
theorem holdings_of_removed {newest : Prop} {h h' : History} {f f' : VersionedFile} {hidden : Bool}
    {number : VersionNumber} {removal : Removal} (hf : f.Sound) (hfollows : h.Follows f)
    (hshares : h.Shares newest f) (hcolumned : h.Columned)
    (hplan : h.planRemoval number = .ok removal) (herase : f.erase number = .ok f')
    (hok : h.takeOver (f'.listing hidden) (h.upload?.map Version.dataset) = .ok h' ∨
      h.remove removal = .ok h') :
    (∀ c ∈ h.holdings, c.1 ≠ number → c ∈ h'.holdings) ∧
      (∀ c ∈ h'.holdings, c ∈ f.holdings ∧ c.1 ≠ number) ∧ h'.Columned := by
  have hmem {c : Holding} : c ∈ f'.holdings ↔ c ∈ f.holdings ∧ c.1 ≠ number := by
    rw [hf.holdings_erase herase, List.mem_filter, bne_iff_ne]
  rcases hok with hok | hok
  · -- the listing is that of the file, which has all that the history had
    have hfollows' := hfollows.erase hf herase
    have htaken : h'.Follows f' := by
      refine .takeOver (hf.erase herase) hfollows'.highest_lt (fun d hd => ?_) hok
      obtain ⟨v, hv, rfl⟩ := Option.map_eq_some_iff.1 hd
      exact hfollows'.upload_rows hv
    have heq := History.holdings_takeOver (hf.erase herase) htaken hok
    refine ⟨fun c hc hne => ?_, fun c hc => ?_, .takeOver (fun d hd => ?_) hok⟩
    · rw [heq]
      exact hmem.2 ⟨hshares.sublist.subset hc, hne⟩
    · rw [heq] at hc
      exact hmem.1 hc
    · exact hcolumned.upload? hd
  · -- without a listing the history drops the version itself and gets nothing new
    have heq := History.holdings_remove hfollows.toSound hplan hok
    refine ⟨fun c hc hne => ?_, fun c hc => ?_, hcolumned.remove hok⟩
    · rw [heq]
      exact List.mem_filter.2 ⟨hc, bne_iff_ne.2 hne⟩
    · rw [heq] at hc
      obtain ⟨hc, hne⟩ := List.mem_filter.1 hc
      exact ⟨hshares.sublist.subset hc, bne_iff_ne.1 hne⟩

/-- What is said of holdings is said of versions: numbers tell the versions of the file apart, and
rows tell their columns. -/
theorem loses_of_holdings {newest : Prop} {h h' : History} {f : VersionedFile}
    {number : VersionNumber} (hf : f.Sound) (hshares : h.Shares newest f)
    (hmem : number ∈ h.numbers) (hcolumned : h.Columned) (hcolumned' : h'.Columned)
    (hkept : ∀ c ∈ h.holdings, c.1 ≠ number → c ∈ h'.holdings)
    (hback : ∀ c ∈ h'.holdings, c ∈ f.holdings ∧ c.1 ≠ number) : h.Loses h' f number where
  mem := hmem
  not_mem := by
    intro hgone
    obtain ⟨v', hv', heq⟩ := List.mem_map.1 hgone
    exact (hback _ (List.mem_map_of_mem hv')).2 heq
  kept := by
    intro v hv hne
    obtain ⟨v', hv', heq⟩ := List.mem_map.1 (hkept v.holding (List.mem_map_of_mem hv) hne)
    have hrows : v.dataset.rows = v'.dataset.rows := congrArg (fun c => c.2.1) heq.symm
    refine ⟨v', hv', heq, fun hne => Eq.symm ?_⟩
    exact (hcolumned _ (List.mem_map_of_mem hv)).eq_of_rows_eq
      (hcolumned' _ (List.mem_map_of_mem hv')) hrows hne
  back := by
    intro v' hv'
    obtain ⟨hin, -⟩ := hback _ (List.mem_map_of_mem hv')
    by_cases hnumber : v'.number ∈ h.numbers
    · -- the file has one version of that number, so it is the one that the history had
      obtain ⟨v, hv, heq⟩ := List.mem_map.1 hnumber
      have hin' : v.holding ∈ f.holdings := hshares.sublist.subset (List.mem_map_of_mem hv)
      have hnodup := hf.nodup_numbers
      rw [← VersionedFile.map_fst_holdings] at hnodup
      exact .inl ⟨v, hv, List.inj_on_of_nodup_map hnodup hin' hin heq⟩
    · exact .inr ⟨hnumber, List.mem_map.1 hin⟩

/-- **What a deletion leaves.** A session that is alone with its files, whose filters get the
numbers that the file gave, deletes a version from the file that is open. If that succeeds, the
version is gone from the history, and all others keep their numbers, rows and descriptions, and
their columns if they have rows. A version that was not there before is one that the file had under
a number that the history had not; there is none if filters are only put to the newest version. -/
theorem loses_of_removed {settings : Settings} {filters : History → Bool} {d : Dialogue}
    {acts : List Dialogue.Act} (hfresh : d.Fresh settings)
    (hkeeps : d.Keeps (Terms.numbered filters).Permits acts)
    (hidle : (d.afterAll acts).exchanges = []) {id : FileNumber}
    (hfile : (d.afterAll acts).session.table.file = some id) {number : VersionNumber}
    (hresult : (runToEnd (d.afterAll acts).store
      ((d.afterAll acts).session.remove number)).result = .ok .removed) :
    let h := (d.afterAll acts).session.table.history
    let h' := (runToEnd (d.afterAll acts).store
      ((d.afterAll acts).session.remove number)).session.table.history
    ∃ f, (d.afterAll acts).store.file? id = some f ∧ h.Loses h' f number ∧
      ((∀ h, filters h = true → h.hasNewer = false) →
        ∀ v' ∈ h'.versions, ∃ v ∈ h.versions, v.holding = v'.holding) := by
  intro h h'
  have hstep := InStep.of_keeps (upheld_shares filters _) hfresh hkeeps
  have hcolumned := (columned_of_reachable (hfresh.reachable_afterAll acts)).session id hfile
  obtain ⟨f, hf, hsound, hfollows, hshares⟩ := hstep.exists_file? (by simp [hidle]) hfile
  obtain ⟨removal, f', h'', hplan, herase, heq, hok⟩ := of_removed hfile hf hsound hfollows hresult
  obtain rfl : h' = h'' := heq
  obtain ⟨hkept, hback, hcolumned'⟩ :=
    holdings_of_removed hsound hfollows hshares hcolumned hplan herase hok
  have hmem := History.mem_numbers_of_planRemoval hfollows.toSound hplan
  refine ⟨f, hf, loses_of_holdings hsound hshares hmem hcolumned hcolumned' hkept hback,
    fun hnewest v' hv' => ?_⟩
  -- such a history had all that the file has
  obtain ⟨hin, -⟩ := hback _ (List.mem_map_of_mem hv')
  rw [← hshares.eq_of_newest hnewest] at hin
  exact List.mem_map.1 hin

/-- A filter, a step back, and two more filters, which leave no rows. The history has dropped the
result of the first. -/
def branchedActs : List Dialogue.Act :=
  [.call (.connect 1), .serve 0, .deliver 0,
   .call (.filter "first"), .serve 0, .deliver 0, .serve 0, .deliver 0, .call .undo,
   .call (.filter "second"), .serve 0, .deliver 0, .serve 0, .deliver 0,
   .call (.filter "third"), .serve 0, .deliver 0, .serve 0, .deliver 0]

/-- The deletion of the last of these results. -/
def branchedRemoval : Ended :=
  let d := Dialogue.sample.afterAll branchedActs
  runToEnd d.store (d.session.remove 4)

theorem loses_of_branchedActs :
    Dialogue.sample.Keeps (Terms.numbered fun _ => true).Permits branchedActs ∧
      branchedRemoval.result = .ok .removed ∧
        ∃ f, (Dialogue.sample.afterAll branchedActs).store.file? 1 = some f ∧
          (Dialogue.sample.afterAll branchedActs).session.table.history.Loses
            branchedRemoval.session.table.history f 4 := by
  have hkeeps :
      Dialogue.sample.Keeps (Terms.numbered fun _ => true).Permits branchedActs := by
    decide +kernel
  have hfile : (Dialogue.sample.afterAll branchedActs).session.table.file = some 1 := by
    decide +kernel
  have hresult : branchedRemoval.result = .ok .removed := by decide +kernel
  obtain ⟨f, hf, hloses, -⟩ :=
    loses_of_removed Dialogue.fresh_sample hkeeps (by decide +kernel) hfile hresult
  exact ⟨hkeeps, hresult, f, hf, hloses⟩

/-- The deletion brings back the first result, and the second one loses its columns. -/
theorem others_of_branchedRemoval :
    branchedRemoval.result = .ok .removed ∧
      (let h := (Dialogue.sample.afterAll branchedActs).session.table.history
       h.numbers = [1, 3, 4] ∧
        (h.version? 3).map (fun v => v.dataset.columns) = some ["name"]) ∧
      (let h := branchedRemoval.session.table.history
       h.numbers = [1, 2, 3] ∧ (h.version? 3).map (fun v => v.dataset.columns) = some []) := by
  let d := Dialogue.sample.afterAll branchedActs
  let row : Row := ⟨[("name", .null)], by simp⟩
  let upload : Dataset := { columns := ["name"], rows := [row, row] }
  have hasks : d.session.remove 4 =
      d.session.send (.remove 1 4) (.removalAnswer 1 ⟨4, true⟩ (some upload)) := by
    have hplan : d.session.table.history.planRemoval 4 = .ok ⟨4, true⟩ := by decide +kernel
    have hfile : d.session.table.file = some 1 := by decide +kernel
    have hupload : d.session.table.history.upload?.map Version.dataset = some upload := by
      decide +kernel
    rw [remove, hplan, hfile, hupload]
  -- the listing that follows is in order, and is taken over as it stands
  have hanswer : (d.store.respond (.remove 1 4)).2 = .ok .removed := by decide +kernel
  have hlisting : ((d.store.respond (.remove 1 4)).1.respond (.listing 1)).2 =
      .ok (.listing [⟨[row, row], uploadDescription, false, 1⟩, ⟨[row], "first", false, 2⟩,
        ⟨[], "second", true, 3⟩]) := by decide +kernel
  obtain ⟨hresult, hhistory⟩ := runToEnd_remove_of_takeOver_eq_ok hasks hanswer hlisting
    (History.takeOver_of_pairwise (by decide) rfl)
  have hlast : branchedRemoval.session.table.history = _ := hhistory
  refine ⟨hresult, by decide +kernel, ?_⟩
  rw [hlast]
  decide +kernel

end Session

end Tabula
