import Tabula.Proofs.Page.Words
import Tabula.Proofs.Pager.Tickets
import Tabula.Store

/-!
# The pager in machine words

A pager computes with the page sizes that it is given and with the numbers of rows that its tables
have or the service counts, and a store with whatever it is asked for. In this module they do so in
machine words (`Words.begin?`, `Words.settle?` and the others, each beside the operation that it
repeats). `words_suffice_of_run` says that no computation is left without a result, after any run of
a pager and in any store, as long as tables have fewer than `2 ^ 63` rows and words hold what comes
from outside.

The number of pages that the service counts is not among these, and page numbers are accepted up to
it. Such a number is multiplied only after it was brought into the range of the last known table, so
what is to be known of a ticket does not mention the number of its page (`Ticket.InWords`). The
invariant `InWords` says the same of the pager, whose number of rows may be the service's.
-/

namespace Tabula

namespace Words

/-! ### Operations of the pager and the store -/

/-- `Pager.start` in words. -/
def start? (pageSize : Nat) (hasService : Bool) : Option Pager := do
  let info ← first? 0 (max pageSize 1)
  return { info, hasService }

/-- `Pager.restart` in words. -/
def restart? (p : Pager) (source : RowSource) : Option Pager := do
  let info ← first? source.dataset.size p.info.size
  return { p with source, info, current := none, issued := p.issued + 1 }

/-- `Pager.resizePages` in words. -/
def resizePages? (p : Pager) (size : Nat) : Option (Except DataFault Pager) :=
  if size = 0 then some (.error .pageSizeZero)
  else do
    let info ← first? p.info.totalRows size
    return .ok { p with info, current := none, issued := p.issued + 1 }

/-- `Ticket.ownPage` in words. -/
def ownPage? (t : Ticket) : Option (Except DataFault Page) :=
  match t.source with
  | .memory dataset => page? dataset t.index t.pageSize
  | .service _ lastKnown => (nearestPage? lastKnown t.index t.pageSize).map .ok

/-- `Ticket.servedPage` in words. The numbers of a page that the service served are taken from its
answer. -/
def servedPage? (t : Ticket) (reply : Reply) : Option Page :=
  match reply with
  | .ok (.page _) => some (t.servedPage reply)
  | _ => nearestPage? t.source.dataset t.index t.pageSize

/-- `Pager.cut` in words. -/
def cut? (p : Pager) (t : Ticket) : Option (Pager × Except DataFault PageOutcome) := do
  match ← ownPage? t with
  | .error fault => return (p, .error fault)
  | .ok page =>
    let (p, fetch) := p.deliver t page
    return (p, .ok fetch)

/-- `Pager.begin` in words. -/
def begin? (p : Pager) (index : Nat) : Option (Pager × Pager.Progress) :=
  match p.ask index with
  | .error fault => some (p, .done (.error fault))
  | .ok (p, t) =>
    match p.request? t with
    | some request => some (p, .waiting request t)
    | none => do
      let (p, result) ← cut? p t
      return (p, .done result)

/-- `Pager.settle` in words. -/
def settle? (p : Pager) (t : Ticket) (reply : Reply) :
    Option (Pager × Except DataFault PageOutcome) :=
  match p.request? t with
  | some _ => do
    let (p, fetch) := p.deliver t (← servedPage? t reply)
    return (p, .ok fetch)
  | none => cut? p t

/-- `Store.servedPage` in words. -/
def storedPage? (s : Store) (id : FileNumber) (index size : Nat) :
    Option (Except ServiceFault ServedPage) :=
  match s.file id with
  | .error fault => some (.error fault)
  | .ok f => do
    match ← page? f.currentVersion.dataset index size with
    | .error fault => return .error (.refused fault.message)
    | .ok page =>
      return .ok { rows := page.rows, totalRecords := page.info.totalRows,
                   totalPages := page.info.totalPages }

theorem start?_eq (pageSize : Nat) (hasService : Bool) :
    start? pageSize hasService = some (.start pageSize hasService) := by
  rw [start?, first?_eq (Nat.lt_of_lt_of_le Nat.zero_lt_one (Nat.le_max_right _ _)) (by decide)]
  rfl

theorem restart?_eq {p : Pager} {source : RowSource} (hs : 0 < p.info.size)
    (hrows : source.dataset.size < 2 ^ 63) :
    restart? p source = some (p.restart source) := by
  rw [restart?, first?_eq hs (Nat.lt_trans hrows (by decide))]
  rfl

theorem resizePages?_eq {p : Pager} {size : Nat} (hrows : p.info.totalRows < 2 ^ 64) :
    resizePages? p size = some (p.resizePages size) := by
  unfold resizePages? Pager.resizePages
  by_cases hs : size = 0
  · rw [if_pos hs, if_pos hs]
  · rw [if_neg hs, if_neg hs, first?_eq (Nat.pos_of_ne_zero hs) hrows]
    rfl

theorem storedPage?_eq {s : Store} {id : FileNumber} {f : VersionedFile} {index size : Nat}
    (hf : s.file? id = some f) (hrows : f.currentVersion.dataset.size < 2 ^ 63)
    (hsize : size < 2 ^ 64) :
    storedPage? s id index size = some (s.servedPage id index size) := by
  have hfile : s.file id = .ok f := by rw [Store.file, hf]
  rw [storedPage?, Store.servedPage, hfile]
  simp only [page?_eq hsize hrows, Option.bind_some, bind, Except.bind]
  cases f.currentVersion.dataset.page index size <;> rfl

end Words

/-- A ticket whose page is computed in words. -/
structure Ticket.InWords (t : Ticket) : Prop where
  /-- The table in memory has fewer than `2 ^ 63` rows. -/
  rows_lt : t.source.dataset.size < 2 ^ 63
  /-- A page holds at least one row. -/
  size_pos : 0 < t.pageSize
  /-- A word holds the page size. -/
  size_lt : t.pageSize < 2 ^ 64

namespace Words

variable {p : Pager} {t : Ticket}

theorem ownPage?_eq (ht : t.InWords) : ownPage? t = some t.ownPage := by
  obtain ⟨hrows, hpos, hsize⟩ := ht
  unfold ownPage? Ticket.ownPage
  cases hsource : t.source with
  | memory d =>
    rw [hsource] at hrows
    exact page?_eq hsize hrows
  | service file d =>
    rw [hsource] at hrows
    exact congrArg (Option.map Except.ok) (nearestPage?_eq hpos hsize hrows)

theorem servedPage?_eq (ht : t.InWords) (reply : Reply) :
    servedPage? t reply = some (t.servedPage reply) := by
  unfold servedPage?
  split
  · rfl
  · next hno =>
    rw [nearestPage?_eq ht.size_pos ht.size_lt ht.rows_lt]
    unfold Ticket.servedPage
    split
    · next served => exact absurd rfl (hno served)
    · rfl

theorem cut?_eq (ht : t.InWords) (p : Pager) : cut? p t = some (p.cut t) := by
  rw [cut?, Pager.cut, ownPage?_eq ht]
  cases t.ownPage <;> rfl

/-- A call for a page has a result if its ticket is for a page that is computed in words, should it
get one. -/
theorem begin?_eq {index : Nat} (h : ∀ q t, p.ask index = .ok (q, t) → t.InWords) :
    begin? p index = some (p.begin index) := by
  unfold begin? Pager.begin
  cases hask : p.ask index with
  | error fault => rfl
  | ok granted =>
    obtain ⟨q, t⟩ := granted
    have ht : t.InWords := h q t hask
    cases hr : q.request? t with
    | some request => simp only [hr]
    | none =>
      simp only [hr, cut?_eq ht]
      rfl

theorem settle?_eq (ht : t.InWords) (p : Pager) (reply : Reply) :
    settle? p t reply = some (p.settle t reply) := by
  cases hr : p.request? t with
  | some request =>
    rw [settle?, hr, Pager.settle_of_request?_eq_some hr]
    simp only [servedPage?_eq ht]
    rfl
  | none =>
    rw [settle?, hr, Pager.settle_of_request?_eq_none hr]
    exact cut?_eq ht p

end Words

namespace Pager

variable {acts : List Act} {a : Act} {s s' : System}

/-! ### What is computed in words -/

/-- What comes from outside in words: tables with fewer than `2 ^ 63` rows, page sizes, and the
number of rows that the service counts, but not the number of pages. -/
def Act.InWords : Act → Prop
  | restarted source => source.dataset.size < 2 ^ 63
  | resized size => size < 2 ^ 64
  | finished _ (.ok (.applied page)) => page.origin = .service → page.info.totalRows < 2 ^ 64
  | _ => True

/-- A pager and its calls, with numbers that words hold. -/
structure InWords (s : System) : Prop where
  /-- The table in memory has fewer than `2 ^ 63` rows. -/
  rows_lt : s.pager.source.dataset.size < 2 ^ 63
  /-- A word holds the page size. -/
  size_lt : s.pager.info.size < 2 ^ 64
  /-- A word holds the number of rows, whoever counted them. -/
  totalRows_lt : s.pager.info.totalRows < 2 ^ 64
  /-- The pages that are asked for are computed in words. -/
  tickets : ∀ t ∈ s.outstanding, t.InWords

theorem InWords.start {pageSize : Nat} (hsize : pageSize < 2 ^ 64) (hasService : Bool) :
    InWords (.start pageSize hasService) where
  rows_lt := Nat.two_pow_pos 63
  size_lt := Nat.max_lt.2 ⟨hsize, by decide⟩
  totalRows_lt := Nat.two_pow_pos 64
  tickets := fun _ h => absurd h List.not_mem_nil

/-- A ticket is handed out for the source and the page size of the pager. -/
theorem InWords.ticket (hw : InWords s) (hl : Lawful acts s) {p : Pager} {index : Nat} {t : Ticket}
    (h : s.pager.ask index = .ok (p, t)) : t.InWords := by
  obtain ⟨-, -, rfl⟩ := ask_eq_ok_iff.1 h
  exact ⟨hw.rows_lt, hl.size_pos, hw.size_lt⟩

/-- **One step.** The numbers of a page that goes on display are those of the table in memory, or the
service answered with them. -/
theorem InWords.step (hl : Lawful acts s) (hw : InWords s) (hstep : Step s a s') (ha : a.InWords) :
    InWords s' := by
  cases hstep with
  | restart source => exact ⟨ha, hw.size_lt, Nat.lt_trans ha (by decide), hw.tickets⟩
  | resize h =>
    -- the pages are counted anew, but the rows are as many as before
    obtain ⟨-, rfl⟩ := resizePages_eq_ok_iff.1 h
    exact ⟨hw.rows_lt, ha, hw.totalRows_lt, hw.tickets⟩
  | refuseSize h => exact hw
  | refusePage h => exact hw
  | ask h =>
    have ht := hw.ticket hl h
    obtain ⟨-, rfl, -⟩ := ask_eq_ok_iff.1 h
    exact ⟨hw.rows_lt, hw.size_lt, hw.totalRows_lt, List.forall_mem_cons.2 ⟨ht, hw.tickets⟩⟩
  | @abandon p ts₁ ts₂ t =>
    have hts := subset_append_cons t ts₁ ts₂
    exact ⟨hw.rows_lt, hw.size_lt, hw.totalRows_lt, fun t ht => hw.tickets t (hts ht)⟩
  | @finish p ts₁ ts₂ t reply =>
    have ht : t ∈ ts₁ ++ t :: ts₂ := List.mem_append_cons_self
    have hts := subset_append_cons t ts₁ ts₂
    rcases hl.settle_cases ht reply with ⟨page, hpage, -, -, -, heq⟩ | heq
    · rw [heq] at ha ⊢
      -- the page goes on display: its size is that of the ticket, its rows were counted by the
      -- service or are those of the table
      refine ⟨hw.rows_lt, ?_, ?_, fun t ht => hw.tickets t (hts ht)⟩
      · show page.info.size < 2 ^ 64
        rw [Ticket.size_of_pageOf hpage]
        exact (hw.tickets t ht).size_lt
      · show page.info.totalRows < 2 ^ 64
        rcases Ticket.pageOf_cases hpage with ⟨hservice, -⟩ | ⟨-, hcut⟩
        · exact ha hservice
        · rw [hcut.within.totalRows_eq]
          exact Nat.lt_trans (hw.tickets t ht).rows_lt (by decide)
    · rw [heq]
      exact ⟨hw.rows_lt, hw.size_lt, hw.totalRows_lt, fun t ht => hw.tickets t (hts ht)⟩

/-- **Every run.** Numbers stay in words as long as those that come from outside are. -/
theorem inWords_of_run {pageSize : Nat} {hasService : Bool} (hsize : pageSize < 2 ^ 64)
    (h : Run (.start pageSize hasService) acts s) (hacts : ∀ a ∈ acts, a.InWords) : InWords s := by
  -- on the run, one step at its end after the other
  induction h with
  | nil => exact .start hsize hasService
  | @snoc acts s s' a hrun hstep ih =>
    have hw := ih fun b hb => hacts b (List.mem_append_left _ hb)
    exact hw.step (lawful_of_run hrun) hstep
      (hacts a (List.mem_append_right _ (List.mem_singleton_self a)))

/-- **Words suffice.** Let a pager begin with a page size that a word holds, and let it go through any
run in which tables have fewer than `2 ^ 63` rows and words hold the page sizes and the numbers of
rows that the service counts. Then all that the pager may be asked for next is computed in words,
with the result that it has without them: to take another such source or page size, where zero is
refused, to begin a call for any page, and to end the call of any ticket with any reply of the
service. And so is any page that any store serves of a table with fewer than `2 ^ 63` rows. -/
theorem words_suffice_of_run {pageSize : Nat} {hasService : Bool} (hsize : pageSize < 2 ^ 64)
    (h : Run (.start pageSize hasService) acts s) (hacts : ∀ a ∈ acts, a.InWords) :
    Words.start? pageSize hasService = some (.start pageSize hasService) ∧
    (∀ source : RowSource, source.dataset.size < 2 ^ 63 →
      Words.restart? s.pager source = some (s.pager.restart source)) ∧
    (∀ size, Words.resizePages? s.pager size = some (s.pager.resizePages size)) ∧
    (∀ index, Words.begin? s.pager index = some (s.pager.begin index)) ∧
    (∀ t ∈ s.outstanding, ∀ reply,
      Words.settle? s.pager t reply = some (s.pager.settle t reply)) ∧
    ∀ (store : Store) (id : FileNumber) (f : VersionedFile) (index size : Nat),
      store.file? id = some f → f.currentVersion.dataset.size < 2 ^ 63 → size < 2 ^ 64 →
        Words.storedPage? store id index size = some (store.servedPage id index size) := by
  have hl := lawful_of_run h
  have hw := inWords_of_run hsize h hacts
  refine ⟨Words.start?_eq pageSize hasService, ?_, ?_, ?_, ?_, ?_⟩
  · intro source hrows
    exact Words.restart?_eq hl.size_pos hrows
  · intro size
    exact Words.resizePages?_eq hw.totalRows_lt
  · intro index
    exact Words.begin?_eq fun q t hask => hw.ticket hl hask
  · intro t ht reply
    exact Words.settle?_eq (hw.tickets t ht) s.pager reply
  · intro store id f index size hf hrows hsize
    exact Words.storedPage?_eq hf hrows hsize

/-- The greatest page size. -/
def greatestSize : Nat := 2 ^ 64 - 1

/-- A file that was last known with one row. -/
def vastFile : RowSource :=
  .service 1 { columns := ["n"], rows := [∅] }

/-- A ticket for one of its pages of the greatest size. -/
def vastTicket (sequence index : Nat) : Ticket :=
  { sequence, source := vastFile, index, pageSize := greatestSize }

/-- The first of its pages, by the answer of a service that counts as many pages as it can. -/
def vastPage : Page :=
  { rows := [∅]
    info :=
      { index := 1, size := greatestSize, totalRows := greatestSize, totalPages := greatestSize }
    origin := .service }

/-- The file is opened, its first page is delivered, and the last page that the service counts is
asked for. -/
def vastActs : List Act :=
  [.restarted vastFile, .asked (vastTicket 2 1), .finished (vastTicket 2 1) (.ok (.applied vastPage)),
    .asked (vastTicket 3 greatestSize)]

/-- The pager that waits for that page. -/
def vastPager : Pager :=
  { source := vastFile, info := vastPage.info, current := vastPage, issued := 3, hasService := true }

theorem run_vastPager :
    Run (.start greatestSize true) vastActs ⟨vastPager, [vastTicket 3 greatestSize]⟩ := by
  let opened : Pager := (start greatestSize true).restart vastFile
  let answered : Pager :=
    { opened with info := vastPage.info, current := vastPage, issued := 2 }
  let served : ServedPage :=
    { rows := [∅], totalRecords := greatestSize, totalPages := greatestSize }
  have h₁ : Run (.start greatestSize true) [.restarted vastFile] ⟨opened, []⟩ :=
    @Run.snoc _ [] _ _ _ .nil (.restart _)
  have h₂ := h₁.snoc (.ask (show ask _ 1 = .ok ({ opened with issued := 2 }, vastTicket 2 1)
    from rfl))
  have h₃ : Run (.start greatestSize true) _ ⟨answered, []⟩ :=
    h₂.snoc (@Step.finish _ [] [] (vastTicket 2 1) (.ok (.page served)))
  exact h₃.snoc (.ask (show ask _ greatestSize = .ok (vastPager, vastTicket 3 greatestSize)
    from rfl))

/-- The last page of the greatest size and number cannot be cut as it is, but words suffice for what
is shown in its place when the service does not answer. -/
theorem words_suffice_vastPager :
    greatestSize < 2 ^ 64 ∧
    Run (.start greatestSize true) vastActs ⟨vastPager, [vastTicket 3 greatestSize]⟩ ∧
    (∀ a ∈ vastActs, a.InWords) ∧
    Words.window? vastFile.dataset greatestSize greatestSize = none ∧
    (∀ fault, Words.settle? vastPager (vastTicket 3 greatestSize) (.error fault) =
      some (vastPager.settle (vastTicket 3 greatestSize) (.error fault))) ∧
    Words.restart? vastPager vastFile = some (vastPager.restart vastFile) ∧
    Words.storedPage? (({} : Store).keep vastFile.dataset).1 1 greatestSize greatestSize =
      some (.error (.refused (DataFault.noSuchPage greatestSize 1).message)) := by
  have hsize : greatestSize < 2 ^ 64 := by decide
  have hacts : ∀ a ∈ vastActs, a.InWords := by
    simp [vastActs, Act.InWords, vastFile, vastPage, RowSource.dataset, Dataset.size, greatestSize]
  obtain ⟨-, hrestart, -, -, hsettle, hstore⟩ := words_suffice_of_run hsize run_vastPager hacts
  refine ⟨hsize, run_vastPager, hacts, by decide, fun fault => ?_, ?_, ?_⟩
  · exact hsettle _ (List.mem_singleton_self _) _
  · exact hrestart vastFile (by decide)
  · exact hstore _ 1 (.ofUpload vastFile.dataset) greatestSize greatestSize rfl (by decide) hsize

end Pager

end Tabula
