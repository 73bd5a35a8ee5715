import Tabula.Proofs.Session.Solo

/-!
# Overlapping filters and deletions

The calls that edit a file may wait side by side: one filter at a time, for it shuts a gate, and any
number of deletions. What keeps the numbers of the history those of the file is the listing by which
a deletion ends, and it does so only in time. A listing that was overtaken brings back a version
that is gone meanwhile, or drops one that came; and one that has the result of a filter before the
filter has recorded it makes the filter record it a second time, under another number
(`numbers_ne_of_untimely`). Where neither happens the numbers agree as soon as no call waits,
however filters and deletions overlap (`numbers_eq_of_orderly`).

Between two such states the history is behind the file in two ways, which `Overlapping` tells apart.
A version that a filter made and has not recorded is the last one of the file, and its number is
above all that the history has. While a deletion has not ended that the file has made, nothing is
said of the other numbers; the listing by which it ends settles them.
-/

namespace Tabula.Session

namespace Dialogue

/-- Whether a reply comes in time. The listing by which a deletion ends has to be what the store
would answer at this moment, and there must be no result that a filter has not recorded. -/
def Timely (d : Dialogue) : Exchange → Prop
  | ⟨.removalListing .., request, reply⟩ =>
    reply = some (d.store.respond request).2 ∧ d.exchanges.any Exchange.unrecorded = false
  | _ => True

/-- The policy of filters and deletions that overlap but are answered in time. Calls that only look
at the table may come between them. -/
def Orderly (d : Dialogue) : Act → Prop
  | .call (.showTable _) | .call (.connect _) | .call .undo | .call .redo => False
  | .call _ | .serve _ => True
  | .deliver i =>
    match d.exchanges[i]? with
    | some e => d.Timely e
    | none => True
  | .cancel _ | .plant .. => False

instance (d : Dialogue) (e : Exchange) : Decidable (d.Timely e) := by
  unfold Timely
  split <;> infer_instance

instance (d : Dialogue) : (a : Act) → Decidable (d.Orderly a)
  | .call (.showTable _) | .call (.connect _) | .call .undo | .call .redo => .isFalse id
  | .call (.filter _) | .call (.remove _) | .call (.clickHeader _) | .call (.search _)
  | .call .showAll | .call (.showPage _) | .call (.resizePages _) | .call (.columnStatistics _)
  | .serve _ => .isTrue trivial
  | .deliver i =>
    decidable_of_iff (∀ e ∈ d.exchanges[i]?, d.Timely e) <| by
      cases h : d.exchanges[i]? <;> simp [Orderly, h]
  | .cancel _ | .plant .. => .isFalse id

end Dialogue

/-! ### What the history is behind -/

/-- An exchange of a filter, a deletion or a page that may overlap with others. -/
inductive Overlap (id : FileNumber) (highest : VersionNumber) (f : VersionedFile) :
    Exchange → Prop where
  | filtering {query : String} : Overlap id highest f ⟨.filterResult id, .filter id query, none⟩
  | filterFailed {query : String} {fault : ServiceFault} :
    Overlap id highest f ⟨.filterResult id, .filter id query, some (.error fault)⟩
  | filtered {query : String} {result : FilterResult} :
    Overlap id highest f ⟨.filterResult id, .filter id query, some (.ok (.filtered result))⟩
  | numbering {result : FilterResult} {reply : Option Reply}
    (hreply : ∀ r, reply = some r → r.listing?.bind assignedNumber? = some f.current) :
    Overlap id highest f ⟨.filterNumber result, .listing id, reply⟩
  | removing {removal : Removal} {upload : Dataset} (hle : removal.number ≤ highest)
    (hrows : upload.rows = f.first.dataset.rows) :
    Overlap id highest f
      ⟨.removalAnswer id removal (some upload), .remove id removal.number, none⟩
  | removalFailed {number : VersionNumber} {removal : Removal} {upload : Option Dataset}
    {fault : ServiceFault} :
    Overlap id highest f
      ⟨.removalAnswer id removal upload, .remove id number, some (.error fault)⟩
  | removed {number : VersionNumber} {removal : Removal} {upload : Dataset}
    (hrows : upload.rows = f.first.dataset.rows) :
    Overlap id highest f
      ⟨.removalAnswer id removal (some upload), .remove id number, some (.ok .removed)⟩
  | relisting {removal : Removal} {upload : Dataset} {reply : Option Reply}
    (hrows : upload.rows = f.first.dataset.rows) :
    Overlap id highest f ⟨.removalListing removal (some upload), .listing id, reply⟩
  | page {file : FileNumber} {index size : Nat} {ticket : Ticket} {reply : Option Reply} :
    Overlap id highest f ⟨.page ticket, .page file index size, reply⟩

/-- What a session with overlapping calls has in common with the file that is open. -/
structure Overlapping (id : FileNumber) (f : VersionedFile) (s : Session) (es : List Exchange) :
    Prop where
  file_eq : s.table.file = some id
  follows : s.table.history.Follows f
  hasNewer_eq : s.table.history.hasNewer = false
  overlap : ∀ e ∈ es, Overlap id s.table.history.highest f e
  /-- A result that is not recorded has a number above all that the history has. -/
  above : es.any Exchange.unrecorded = true → s.table.history.highest < f.current
  /-- But for that result, the numbers agree unless a deletion has not ended. -/
  level : es.any Exchange.behind = false →
    s.table.history.numbers ++ (if es.any Exchange.unrecorded then [f.current] else []) = f.numbers

variable {id : FileNumber} {f f' : VersionedFile} {s s' : Session} {es es' es₁ es₂ : List Exchange}
  {e e' : Exchange} {highest highest' : VersionNumber} {turn : Turn}

theorem any_append_cons (p : Exchange → Bool) :
    (es₁ ++ e :: es₂).any p = (p e || (es₁ ++ es₂).any p) := by
  simp [Bool.or_left_comm]

/-- What was said of an exchange still holds if the history gave out more numbers, or if the file
lost a version that is not the result of a filter. -/
theorem Overlap.mono (hle : highest ≤ highest') (hfirst : f'.first = f.first)
    (hcurrent : e.unrecorded = true → f'.current = f.current) (he : Overlap id highest f e) :
    Overlap id highest' f' e := by
  cases he with
  | filtering => exact .filtering
  | filterFailed => exact .filterFailed
  | filtered => exact .filtered
  | numbering hreply => exact .numbering (hcurrent rfl ▸ hreply)
  | removing hn hrows => exact .removing (hn.trans hle) (hfirst ▸ hrows)
  | removalFailed => exact .removalFailed
  | removed hrows => exact .removed (hfirst ▸ hrows)
  | relisting hrows => exact .relisting (hfirst ▸ hrows)
  | page => exact .page

/-- Other exchanges may take the place of those there are, as long as the history is not behind in
another way. -/
theorem Overlapping.update (ho : Overlapping id f s es) (hfile : s'.table.file = s.table.file)
    (hhistory : s'.table.history = s.table.history)
    (hes : ∀ e ∈ es', Overlap id s.table.history.highest f e)
    (hunrecorded : es'.any Exchange.unrecorded = es.any Exchange.unrecorded)
    (hbehind : es'.any Exchange.behind = es.any Exchange.behind) : Overlapping id f s' es' where
  file_eq := hfile.trans ho.file_eq
  follows := hhistory ▸ ho.follows
  hasNewer_eq := hhistory ▸ ho.hasNewer_eq
  overlap := hhistory ▸ hes
  above := by
    rw [hunrecorded, hhistory]
    exact ho.above
  level := by
    rw [hunrecorded, hbehind, hhistory]
    exact ho.level

/-- An exchange may come further, as long as the history is not behind in another way. -/
theorem Overlapping.replace (ho : Overlapping id f s (es₁ ++ e :: es₂))
    (he' : Overlap id s.table.history.highest f e') (hunrecorded : e'.unrecorded = e.unrecorded)
    (hbehind : e'.behind = e.behind) : Overlapping id f s (es₁ ++ e' :: es₂) := by
  refine ho.update rfl rfl ?_ ?_ ?_
  · exact forall_mem_append_cons.2 ⟨he', (forall_mem_append_cons.1 ho.overlap).2⟩
  · rw [any_append_cons, any_append_cons, hunrecorded]
  · rw [any_append_cons, any_append_cons, hbehind]

/-- The other exchanges are not of filters where one is. -/
theorem any_unrecorded_eq_false (hone : (es₁ ++ e :: es₂).countP (fun e => e.pending.holdsGate) ≤ 1)
    (he : e.pending.holdsGate = true) : (es₁ ++ es₂).any Exchange.unrecorded = false := by
  refine List.any_eq_false.2 fun e' he' hun => ?_
  have hopen := Dialogue.holdsGate_eq_false hone he e' he'
  unfold Exchange.unrecorded at hun
  split at hun
  · exact absurd hopen (by simp [Pending.holdsGate])
  · exact absurd hopen (by simp [Pending.holdsGate])
  · exact absurd hun (by simp)

/-! ### First turns -/

/-- The calls that may overlap leave the history as it is when they begin. -/
theorem Overlapping.begin (ho : Overlapping id f s es) {c : Call}
    (hc : c.IsView ∨ (∃ query, c = .filter query) ∨ ∃ number, c = .remove number) :
    Overlapping id f (c.begin s).session ((c.begin s).joining es) := by
  have hbegun := begun (s := s) c
  generalize c.begin s = turn at hbegun ⊢
  cases hbegun with
  | stays => exact ho
  -- a look at the table may wait for a page, which the history does not depend on
  | views hview hviews =>
    rcases hviews.next with ⟨result, hnext⟩ | ⟨file, index, size, t, hnext⟩
    · rw [Turn.joining, hnext]
      exact ho.update hviews.file_eq hviews.history_eq ho.overlap rfl rfl
    · rw [Turn.joining, hnext]
      refine ho.update hviews.file_eq hviews.history_eq (fun e he => ?_) rfl rfl
      rcases List.mem_cons.1 he with rfl | he
      · exact .page
      · exact ho.overlap e he
  -- a filter joins the calls that wait
  | filters hfile hopen =>
    obtain rfl := Option.some.inj (hfile.symm.trans ho.file_eq)
    refine ho.update rfl rfl (fun e he => ?_) rfl rfl
    rcases List.mem_cons.1 he with rfl | he
    · exact .filtering
    · exact ho.overlap e he
  -- a deletion joins them with a number that the history has, and with the upload that it knows
  | @removes file number removal hfile hplan =>
    obtain rfl := Option.some.inj (hfile.symm.trans ho.file_eq)
    obtain ⟨v, hv⟩ := ho.follows.exists_upload?
    have hle := History.le_highest_of_planRemoval ho.follows.toSound hplan
    obtain ⟨rfl, -⟩ := History.exists_remove_of_planRemoval ho.follows.toSound hplan
    rw [hv]
    refine ho.update rfl rfl (fun e he => ?_) rfl rfl
    rcases List.mem_cons.1 he with rfl | he
    · exact .removing hle (ho.follows.upload_rows hv)
    · exact ho.overlap e he
  -- a file is open, and no call replaces it
  | removesHere hfile => exact absurd (hfile.symm.trans ho.file_eq) (by simp)
  | shows | connects | older | newer => exact absurd hc (by simp [Call.IsView])

/-! ### Requests -/

/-- A filter that the store carries out leaves its result above all that the history has. -/
theorem Overlapping.pushed {query : String} {kept : Dataset} {description : String}
    (ho : Overlapping id f s (es₁ ++ ⟨.filterResult id, .filter id query, none⟩ :: es₂))
    (hone : (es₁ ++ ⟨.filterResult id, .filter id query, none⟩ :: es₂).countP
      (fun e => e.pending.holdsGate) ≤ 1) :
    Overlapping id (f.push kept description) s
      (es₁ ++ ⟨.filterResult id, .filter id query,
        some (.ok (.filtered { rows := kept.rows, description }))⟩ :: es₂) := by
  have hnone := any_unrecorded_eq_false hone rfl
  obtain ⟨-, hothers⟩ := forall_mem_append_cons.1 ho.overlap
  refine ⟨ho.file_eq, ho.follows.push kept description, ho.hasNewer_eq,
    forall_mem_append_cons.2 ⟨.filtered, fun e he => ?_⟩, fun _ => ho.follows.highest_lt,
    fun hbehind => ?_⟩
  · refine (hothers e he).mono (Nat.le_refl _) (VersionedFile.first_push ..) fun hun => ?_
    exact absurd hun (List.any_eq_false.1 hnone e he)
  · -- no result was unrecorded before, so the numbers were those of the file
    rw [any_append_cons] at hbehind ⊢
    have hlevel := ho.level (by rw [any_append_cons]; exact hbehind)
    rw [any_append_cons, hnone] at hlevel
    rw [VersionedFile.numbers_push, ← hlevel]
    simp [Exchange.unrecorded]

/-- A deletion that the store carries out leaves the result of a filter alone. -/
theorem Overlapping.erased {removal : Removal} {upload : Dataset}
    (ho : Overlapping id f s
      (es₁ ++ ⟨.removalAnswer id removal (some upload), .remove id removal.number, none⟩ :: es₂))
    (hf : f.Sound) (herase : f.erase removal.number = .ok f') :
    Overlapping id f' s
      (es₁ ++ ⟨.removalAnswer id removal (some upload), .remove id removal.number,
        some (.ok .removed)⟩ :: es₂) := by
  obtain ⟨-, before, -, -, -, hcurrent, -, hfirst⟩ := hf.of_erase_eq_ok herase
  obtain ⟨hremoving, hothers⟩ := forall_mem_append_cons.1 ho.overlap
  cases hremoving with
  | removing hle hrows =>
  -- its number is not above all that the history has
  have hcurrent (hun : (es₁ ++ es₂).any Exchange.unrecorded = true) :
      s.table.history.highest < f.current ∧ f'.current = f.current := by
    have habove := ho.above (by rw [any_append_cons, hun, Bool.or_true])
    rw [hcurrent, if_neg (Nat.ne_of_gt (Nat.lt_of_le_of_lt hle habove))]
    exact ⟨habove, rfl⟩
  refine ⟨ho.file_eq, ho.follows.erase hf herase, ho.hasNewer_eq,
    forall_mem_append_cons.2 ⟨.removed (hfirst ▸ hrows), fun e he => ?_⟩, fun hun => ?_,
    fun hbehind => ?_⟩
  · refine (hothers e he).mono (Nat.le_refl _) hfirst fun hun => ?_
    exact (hcurrent (List.any_eq_true.2 ⟨e, he, hun⟩)).2
  · rw [any_append_cons] at hun
    obtain ⟨habove, heq⟩ := hcurrent hun
    rwa [heq]
  · rw [any_append_cons] at hbehind
    exact absurd hbehind (by simp [Exchange.behind])

/-- **Requests.** The store carries out any request of calls that overlap. -/
theorem Overlapping.serve {st : Store} {pending : Pending} {request : Request}
    (ho : Overlapping id f s (es₁ ++ ⟨pending, request, none⟩ :: es₂)) (hst : st.Sound)
    (hquiet : ∀ operation, st.planted operation = none) (hf : st.file? id = some f)
    (hone : (es₁ ++ ⟨pending, request, none⟩ :: es₂).countP (fun e => e.pending.holdsGate) ≤ 1) :
    ∃ f', (st.respond request).1.file? id = some f' ∧
      Overlapping id f' s (es₁ ++ ⟨pending, request, some (st.respond request).2⟩ :: es₂) := by
  have hsound : f.Sound := hst id f hf
  have hoverlap := ho.overlap _ (List.mem_append_right es₁ List.mem_cons_self)
  cases hoverlap with
  -- a filter that fails makes no version, and one that does not makes the next one
  | @filtering query =>
    have hresponded := st.responded (.filter id query)
    generalize st.respond (.filter id query) = result at hresponded ⊢
    cases hresponded with
    | failed => exact ⟨f, hf, ho.replace .filterFailed rfl rfl⟩
    | filtered hf' hrun =>
      obtain rfl := Option.some.inj (hf'.symm.trans hf)
      exact ⟨_, Store.file?_setFile_self (s := (st.admitted .filter).1) hf, ho.pushed hone⟩
  | numbering hreply =>
    -- the result is above all that the history has, so it is not the upload
    have habove : s.table.history.highest < f.current := ho.above (by rw [any_append_cons]; rfl)
    have hne : f.current ≠ uploadNumber :=
      Nat.ne_of_gt (Nat.lt_of_le_of_lt ho.follows.uploadNumber_le_highest habove)
    rw [file?_respond_listing, Store.respond_listing hf (hquiet _)]
    refine ⟨f, hf, ho.replace (.numbering fun r hr => ?_) rfl rfl⟩
    obtain rfl := Option.some.inj hr
    exact assignedNumber?_listing hsound hne
  -- a deletion likewise takes a version out or does not
  | @removing removal upload hle hrows =>
    have hresponded := st.responded (.remove id removal.number)
    generalize st.respond (.remove id removal.number) = result at hresponded ⊢
    cases hresponded with
    | failed => exact ⟨f, hf, ho.replace .removalFailed rfl rfl⟩
    | removed hf' herase =>
      obtain rfl := Option.some.inj (hf'.symm.trans hf)
      exact ⟨_, Store.file?_setFile_self (s := (st.admitted .remove).1) hf,
        ho.erased hsound herase⟩
  -- what is left only reads the file
  | relisting hrows =>
    rw [file?_respond_listing]
    exact ⟨f, hf, ho.replace (.relisting hrows) rfl rfl⟩
  | @page file index size ticket =>
    have hresponded := st.responded (.page file index size)
    generalize st.respond (.page file index size) = result at hresponded ⊢
    cases hresponded with
    | failed => exact ⟨f, hf, ho.replace .page rfl rfl⟩
    | page => exact ⟨f, hf, ho.replace .page rfl rfl⟩

/-! ### Later turns -/

theorem Turn.Ends.joining_eq {file : Option FileNumber} {h : History} (hends : turn.Ends file h)
    (others : List Exchange) : turn.joining others = others := by
  obtain ⟨result, hnext⟩ := hends.returned
  rw [Turn.joining, hnext]

/-- A call may end that the history is not behind. -/
theorem Overlapping.drop (ho : Overlapping id f s (es₁ ++ e :: es₂))
    (hends : turn.Ends s.table.file s.table.history) (hunrecorded : e.unrecorded = false)
    (hbehind : e.behind = false) :
    Overlapping id f turn.session (turn.joining (es₁ ++ es₂)) := by
  rw [hends.joining_eq]
  refine ho.update hends.file_eq hends.history_eq (forall_mem_append_cons.1 ho.overlap).2 ?_ ?_
  · rw [any_append_cons, hunrecorded, Bool.false_or]
  · rw [any_append_cons, hbehind, Bool.false_or]

/-- A call may go on to wait for another reply, as long as the history is not behind in another
way. -/
theorem Overlapping.go (ho : Overlapping id f s (es₁ ++ e :: es₂))
    (he' : Overlap id s.table.history.highest f e') (hunrecorded : e'.unrecorded = e.unrecorded)
    (hbehind : e'.behind = e.behind) : Overlapping id f s (e' :: (es₁ ++ es₂)) := by
  refine ho.update rfl rfl ?_ ?_ ?_
  · exact List.forall_mem_cons.2 ⟨he', (forall_mem_append_cons.1 ho.overlap).2⟩
  · rw [any_append_cons, List.any_cons, hunrecorded]
  · rw [any_append_cons, List.any_cons, hbehind]

/-- The result of a filter is recorded under the number that the file gave it. -/
theorem Overlapping.record {result : FilterResult} {reply : Reply}
    (ho : Overlapping id f s (es₁ ++ ⟨.filterNumber result, .listing id, some reply⟩ :: es₂))
    (hf : f.Sound)
    (hone : (es₁ ++ ⟨.filterNumber result, .listing id, some reply⟩ :: es₂).countP
      (fun e => e.pending.holdsGate) ≤ 1)
    (hresumed : Resumed s (.filterNumber result) reply turn) :
    Overlapping id f turn.session (turn.joining (es₁ ++ es₂)) := by
  obtain ⟨hnumbering, hothers⟩ := forall_mem_append_cons.1 ho.overlap
  have hnone := any_unrecorded_eq_false hone rfl
  have habove : s.table.history.highest < f.current := ho.above (by rw [any_append_cons]; rfl)
  cases hnumbering with
  | numbering hreply =>
  cases hresumed with
  | recordFails herror =>
    -- recording never fails
    obtain ⟨h', number, hok⟩ := exists_appended ho.follows.toSound _ _ _
    exact absurd (herror.symm.trans hok) (by simp)
  | @records _ _ h' number _ hok hends =>
    -- the number of the file is above all that the history has, so it is taken
    rw [hreply reply rfl] at hok
    obtain rfl := number_eq_of_appended ho.follows.toSound habove hok
    obtain ⟨happend, -⟩ := of_appended_eq_ok hok
    obtain ⟨hnumbers, hnewest', hle⟩ := History.appendAs_newest ho.hasNewer_eq happend
    rw [hends.joining_eq]
    refine ⟨hends.file_eq.trans ho.file_eq, ?_, ?_, fun e he => ?_, fun hun => ?_,
      fun hbehind => ?_⟩
    · rw [hends.history_eq]
      exact ho.follows.appendAs hf.current_lt_next happend
    · rw [hends.history_eq]
      exact hnewest'
    · rw [hends.history_eq]
      exact (hothers e he).mono hle rfl fun _ => rfl
    · -- no other filter is under way, and no number is missing any more
      exact absurd hun (by simp [hnone])
    · have hlevel := ho.level (by rw [any_append_cons, hbehind]; rfl)
      rw [any_append_cons] at hlevel
      rw [hends.history_eq, hnumbers, hnone, ← hlevel]
      simp [Exchange.unrecorded]

/-- The listing by which a deletion ends settles the numbers. -/
theorem Overlapping.relist {removal : Removal} {upload : Option Dataset} {hidden : Bool}
    {reply : Reply}
    (ho : Overlapping id f s
      (es₁ ++ ⟨.removalListing removal upload, .listing id, some reply⟩ :: es₂))
    (hf : f.Sound) (hreply : reply = .ok (.listing (f.listing hidden)))
    (hnone : (es₁ ++ ⟨.removalListing removal upload, .listing id, some reply⟩ :: es₂).any
      Exchange.unrecorded = false)
    (hresumed : Resumed s (.removalListing removal upload) reply turn) :
    Overlapping id f turn.session (turn.joining (es₁ ++ es₂)) := by
  obtain ⟨hrelisting, hothers⟩ := forall_mem_append_cons.1 ho.overlap
  rw [any_append_cons, Bool.or_eq_false_iff] at hnone
  cases hrelisting with
  | @relisting _ upload _ hrows =>
  cases hresumed with
  | removesHere hno =>
    -- a listing of a sound file is taken over, given the upload
    obtain ⟨h', hok⟩ : ∃ h', s.table.history.takeOver (f.listing hidden) (some upload) = .ok h' :=
      History.exists_takeOver_listing hf fun _ => ⟨upload, rfl⟩
    exact absurd hok (hno _ _ hreply)
  | @refreshes _ _ entries h' _ hok hends =>
    -- the listing is that of the file as it is, so it makes up for all deletions at once
    obtain rfl : entries = f.listing hidden := by simpa using hreply
    obtain ⟨hnumbers, hnewest, hle⟩ := History.numbers_takeOver_listing hf hok
    rw [hends.joining_eq]
    refine ⟨hends.file_eq.trans ho.file_eq, ?_, ?_, fun e he => ?_, fun hun => ?_, fun _ => ?_⟩
    · rw [hends.history_eq]
      refine .takeOver hf ho.follows.highest_lt (fun d hd => ?_) hok
      obtain rfl := Option.some.inj hd
      exact hrows
    · rw [hends.history_eq]
      exact hnewest
    · rw [hends.history_eq]
      exact (hothers e he).mono hle rfl fun _ => rfl
    · exact absurd hun (by simp [hnone.2])
    · rw [hends.history_eq, hnumbers, hnone.2]
      simp

/-- **Later turns.** Calls that overlap go on when their replies come in time. -/
theorem Overlapping.resume {pending : Pending} {request : Request} {reply : Reply} {hidden : Bool}
    (ho : Overlapping id f s (es₁ ++ ⟨pending, request, some reply⟩ :: es₂)) (hf : f.Sound)
    (hone : (es₁ ++ ⟨pending, request, some reply⟩ :: es₂).countP
      (fun e => e.pending.holdsGate) ≤ 1)
    (htimely : ∀ removal upload, pending = .removalListing removal upload →
      reply = .ok (.listing (f.listing hidden)) ∧
        (es₁ ++ ⟨pending, request, some reply⟩ :: es₂).any Exchange.unrecorded = false) :
    Overlapping id f (s.resume pending reply).session
      ((Turn.ofStep (s.resume pending reply)).joining (es₁ ++ es₂)) := by
  have hresumed := resumed (s := s) pending reply
  show Overlapping id f (Turn.ofStep (s.resume pending reply)).session _
  generalize Turn.ofStep (s.resume pending reply) = turn at hresumed ⊢
  obtain ⟨hoverlap, -⟩ := forall_mem_append_cons.1 ho.overlap
  -- by what the call waited for; a failure ends it, and a success leads on to its listing
  cases hoverlap with
  | filterFailed =>
    cases hresumed with
    | filterFails hno hends => exact ho.drop hends rfl rfl
  | filtered =>
    cases hresumed with
    | filterFails hno => exact absurd rfl (hno _)
    | filtered => exact ho.go (.numbering (by simp)) rfl rfl
  | numbering => exact ho.record hf hone hresumed
  | removalFailed =>
    cases hresumed with
    | removalFails hno hends => exact ho.drop hends rfl rfl
  | removed hrows =>
    cases hresumed with
    | removalFails hno => exact absurd rfl hno
    | removed => exact ho.go (.relisting hrows) rfl rfl
  -- this is where the listing has to come in time
  | relisting hrows =>
    obtain ⟨hreply, hnone⟩ := htimely _ _ rfl
    exact ho.relist hf hreply hnone hresumed
  | page =>
    cases hresumed with
    | page hends => exact ho.drop hends rfl rfl

/-! ### Runs -/

/-- A dialogue about a file that is open, whose store fails no request. -/
structure InTime (settings : Settings) (id : FileNumber) (d : Dialogue) : Prop where
  reachable : Reachable settings d.system
  sound : d.store.Sound
  quiet : ∀ operation, d.store.planted operation = none
  overlapping : ∃ f, d.store.file? id = some f ∧ Overlapping id f d.session d.exchanges

variable {settings : Settings} {d : Dialogue}

/-- A deletion ends in time with the listing of the file as it is. -/
theorem InTime.reply_eq (hd : InTime settings id d) {removal : Removal} {upload : Option Dataset}
    {reply : Reply} {request : Request} {f : VersionedFile} (hf : d.store.file? id = some f)
    (hmem : ⟨.removalListing removal upload, request, some reply⟩ ∈ d.exchanges)
    (htimely : d.Timely ⟨.removalListing removal upload, request, some reply⟩) :
    reply = .ok (.listing (f.listing d.store.hideUpload)) ∧
      d.exchanges.any Exchange.unrecorded = false := by
  obtain ⟨f', hf', ho⟩ := hd.overlapping
  obtain ⟨hreply, hnone⟩ := htimely
  cases ho.overlap _ hmem with
  | relisting hrows =>
    rw [Store.respond_listing hf (hd.quiet _)] at hreply
    exact ⟨Option.some.inj hreply, hnone⟩

/-- **Acts.** What the policy accepts keeps the dialogue in time. -/
theorem InTime.after (hd : InTime settings id d) {a : Dialogue.Act} (ha : d.Orderly a) :
    InTime settings id (d.after a) := by
  have hreachable := Dialogue.reachable_after hd.reachable a
  -- the gate lets one filter through at a time, and that is all that `reachable` is needed for
  have hone := Dialogue.countP_holdsGate_le_one hd.reachable
  obtain ⟨f, hf, ho⟩ := hd.overlapping
  have hmoved := d.moved a
  generalize d.after a = d' at hmoved hreachable ⊢
  cases hmoved with
  | idle => exact hd
  | @called c =>
    refine ⟨hreachable, hd.sound, hd.quiet, f, hf, ho.begin ?_⟩
    cases c <;> simp_all [Dialogue.Orderly, Call.IsView]
  -- no request fails, so the one that is served changes the file as it should
  | served h =>
    obtain ⟨f', hf', ho'⟩ := Overlapping.serve (h ▸ ho) hd.sound hd.quiet hf (h ▸ hone)
    exact ⟨hreachable, hd.sound.respond _, Store.planted_respond hd.quiet _, f', hf', ho'⟩
  | @delivered es₁ es₂ pending request reply h =>
    -- a reply is a listing behind a deletion only if it is in time
    have htimely : ∀ removal upload, pending = .removalListing removal upload →
        reply = .ok (.listing (f.listing d.store.hideUpload)) ∧
          d.exchanges.any Exchange.unrecorded = false := by
      rintro removal upload rfl
      simp only [Dialogue.Orderly, Dialogue.getElem?_of_exchanges_eq h] at ha
      exact hd.reply_eq hf (h ▸ List.mem_append_cons_self) ha
    exact ⟨hreachable, hd.sound, hd.quiet, f, hf,
      Overlapping.resume (h ▸ ho) (hd.sound id f hf) (h ▸ hone) (h ▸ htimely)⟩
  | cancelled => exact False.elim ha
  | planted => exact False.elim ha

/-- The terms of calls that are made one at a time, none of which goes back or forward, while no
request fails. -/
def Terms.straight : Terms where
  filters _ := true
  moves := false
  spares _ := true

theorem upheld_numbers (hidden : Bool) :
    Upheld .straight hidden fun h f => h.numbers = f.numbers ∧ h.hasNewer = false where
  listed hf hok _ := by
    obtain ⟨hnumbers, hnewest, -⟩ := History.numbers_takeOver_listing hf hok
    exact ⟨hnumbers, hnewest⟩
  moved ht := absurd ht (by simp [Terms.straight])
  recorded _ _ _ hR _ hok hnumber := by
    obtain rfl := hnumber.resolve_right fun h => absurd h.2 (by simp [Terms.straight])
    obtain ⟨hnumbers, hnewest, -⟩ := History.appendAs_newest hR.2 hok
    exact ⟨by rw [hnumbers, hR.1, VersionedFile.numbers_push], hnewest⟩
  removed ht := absurd ht (by simp [Terms.straight])

/-- **Numbers.** On a file that is open, filters and deletions may overlap in any way and be
answered in any order. If every deletion gets its listing in time, the history has the numbers of
the file whenever no call waits: no version that was deleted is back and none that was made is
lost. -/
theorem numbers_eq_of_orderly {opening acts : List Dialogue.Act} (hfresh : d.Fresh settings)
    (hopening : d.Keeps Terms.straight.Permits opening)
    (hopened : (d.afterAll opening).exchanges = [])
    (hfile : (d.afterAll opening).session.table.file = some id)
    (hquiet : ∀ operation, (d.afterAll opening).store.planted operation = none)
    (horderly : (d.afterAll opening).Keeps Dialogue.Orderly acts)
    (hidle : ((d.afterAll opening).afterAll acts).exchanges = []) :
    ((d.afterAll opening).afterAll acts).session.table.history.numbers =
      ((d.afterAll opening).afterAll acts).store.versionNumbers id := by
  have hreachable := hfresh.reachable_afterAll opening
  have hstep := InStep.of_keeps (upheld_numbers _) hfresh hopening
  obtain ⟨f, hf, -, hfollows, hnumbers, hnewest⟩ := hstep.exists_file? (by simp [hopened]) hfile
  have hstart : Overlapping id f (d.afterAll opening).session (d.afterAll opening).exchanges := by
    rw [hopened]
    exact ⟨hfile, hfollows, hnewest, by simp, by simp, fun _ => by simpa using hnumbers⟩
  have hend : InTime settings id ((d.afterAll opening).afterAll acts) :=
    horderly.induction (fun _ _ hd ha => hd.after ha)
      ⟨hreachable, hstep.sound, hquiet, f, hf, hstart⟩
  obtain ⟨f', hf', ho⟩ := hend.overlapping
  rw [hidle] at ho
  have hlevel := ho.level rfl
  rw [Store.versionNumbers, hf']
  show _ = f'.numbers
  simpa using hlevel

/-- The first filter is done; then a deletion of its result and a second filter go side by side, and
the deletion ends last. -/
def overlappingActs : List Dialogue.Act :=
  [.call (.filter "first"), .serve 0, .deliver 0, .serve 0, .deliver 0,
   .call (.remove 2), .call (.filter "second"), .serve 0, .serve 1, .deliver 1, .deliver 1,
   .serve 0, .deliver 0, .serve 0, .deliver 0]

/-- A file that is opened. -/
def openingActs : List Dialogue.Act :=
  [.call (.connect 1), .serve 0, .deliver 0]

theorem numbers_eq_of_overlappingActs :
    (Dialogue.sample.afterAll openingActs).Keeps Dialogue.Orderly overlappingActs ∧
      ((Dialogue.sample.afterAll openingActs).afterAll overlappingActs).session.table.history.numbers
          = [1, 3] ∧
        ((Dialogue.sample.afterAll openingActs).afterAll overlappingActs).store.versionNumbers 1
          = [1, 3] := by
  have hopening : Dialogue.sample.Keeps Terms.straight.Permits openingActs := by
    decide +kernel
  have horderly :
      (Dialogue.sample.afterAll openingActs).Keeps Dialogue.Orderly overlappingActs := by
    decide +kernel
  have hfile : (Dialogue.sample.afterAll openingActs).session.table.file = some 1 := by
    decide +kernel
  have hnumbers := numbers_eq_of_orderly Dialogue.fresh_sample hopening (by decide +kernel) hfile
    (fun operation => by cases operation <;> rfl) horderly (by decide +kernel)
  have hstore :
      ((Dialogue.sample.afterAll openingActs).afterAll overlappingActs).store.versionNumbers 1 =
        [1, 3] := by decide +kernel
  exact ⟨horderly, hnumbers.trans hstore, hstore⟩

/-- The listing of a deletion has the result of the second filter before that filter records it. -/
def renumberedActs : List Dialogue.Act :=
  [.call (.filter "first"), .serve 0, .deliver 0, .serve 0, .deliver 0,
   .call (.remove 2), .serve 0, .deliver 0, .call (.filter "second"), .serve 0, .deliver 0,
   .serve 1, .deliver 1, .serve 0, .deliver 0]

/-- The listing of a deletion is made before the second filter and arrives after it. -/
def overtakenActs : List Dialogue.Act :=
  [.call (.filter "first"), .serve 0, .deliver 0, .serve 0, .deliver 0,
   .call (.remove 2), .serve 0, .deliver 0, .serve 0,
   .call (.filter "second"), .serve 0, .deliver 0, .serve 0, .deliver 0, .deliver 0]

/-- Where a listing does not come in time, a version is recorded twice, or lost. -/
theorem numbers_ne_of_untimely :
    (let d := (Dialogue.sample.afterAll openingActs).afterAll renumberedActs
     d.exchanges = [] ∧ d.session.table.history.numbers = [1, 3, 4] ∧
      d.store.versionNumbers 1 = [1, 3]) ∧
    (let d := (Dialogue.sample.afterAll openingActs).afterAll overtakenActs
     d.exchanges = [] ∧ d.session.table.history.numbers = [1] ∧
      d.store.versionNumbers 1 = [1, 3]) := by
  -- the listing that has the second result is in order, and is taken over as it stands
  let before := (Dialogue.sample.afterAll openingActs).afterAll (renumberedActs.take 12)
  let row : Row := ⟨[("name", .null)], by simp⟩
  let upload : Dataset := { columns := ["name"], rows := [row, row] }
  have hdeliver : before.exchanges[1]? =
      some ⟨.removalListing ⟨2, true⟩ (some upload), .listing 1,
        some (.ok (.listing [⟨[row, row], uploadDescription, false, 1⟩,
          ⟨[row], "second", true, 3⟩]))⟩ := by decide +kernel
  have hlast : (Dialogue.sample.afterAll openingActs).afterAll renumberedActs =
      Dialogue.afterAll (before.after (.deliver 1)) (renumberedActs.drop 13) := rfl
  rw [before.after_deliver_removalListing hdeliver (by decide) rfl] at hlast
  constructor
  · rw [hlast]
    decide +kernel
  · decide +kernel

end Tabula.Session
