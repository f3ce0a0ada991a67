import DatasetService.Proofs.Page.Neighbours

set_option autoImplicit false

/- Crawls back along the pages of a list. A crawl starts with any window and goes on with the page
before the one that the window starts on. So it takes all pages before that one, each item of them
once, and leaves out what stands between the start of that page and the window. -/
namespace DatasetService

namespace Window

/-- A place of a list lies in the window. -/
def Holds (window : Window) (index : Nat) : Prop :=
  window.offset ≤ index ∧ index < window.offset + window.limit

/-- The window that a link names: what its parameters are bound to when a list is asked for. -/
def NamedBy (window : Window) (base url : String) : Prop :=
  ∃ (query : String) (params : ListParams), url = base ++ "?" ++ query ∧
    Binding.bind .list { query := Text.formPairs (Text.bytesOf query) } = .ok params ∧
    window = { limit := params.limit, offset := params.offset }

theorem NamedBy.unique {window other : Window} {base url : String}
    (named : window.NamedBy base url) (again : other.NamedBy base url) : other = window := by
  obtain ⟨query, params, rfl, bound, rfl⟩ := named
  obtain ⟨query', params', same, bound', rfl⟩ := again
  have queries : query = query' := by simpa [← String.toList_inj] using same
  subst queries
  cases bound.symm.trans bound'
  rfl

/-- A link to a page of a list names the window onto the page. -/
theorem namedBy_query {token : PageToken} (bounded : token.Bounded)
    (unordered : token.orderBy = none) (base : String) :
    token.window.NamedBy base (base ++ "?" ++ token.query) := by
  have bound := PageToken.bind_list bounded (by simp [unordered])
  exact ⟨token.query, _, rfl, by rw [token.formPairs_query]; exact bound, rfl⟩

theorem slice_append_slice {α : Type} (items : List α) (start size : Nat) :
    items.take start ++ slice { limit := size, offset := start } items =
      items.take (start + size) :=
  List.take_add.symm

end Window

variable {α : Type}

/-- The windows that a crawl takes on its way back, from a window on: it goes on with the window
that the link to the page before names, as long as there is such a link. -/
inductive BackCrawl (base : String) (items : List α) : Window → List Window → Prop
  | first {window : Window}
      (unlinked : (Pagination.of base (.ofWindow window.limit window.offset)
        (window.slice items).length).prevUrl = none) :
      BackCrawl base items window [window]
  | back {window before : Window} {url : String} {windows : List Window}
      (linked : (Pagination.of base (.ofWindow window.limit window.offset)
        (window.slice items).length).prevUrl = some url)
      (named : before.NamedBy base url)
      (rest : BackCrawl base items before windows) :
      BackCrawl base items window (window :: windows)

namespace BackCrawl

variable {base : String} {items : List α} {window : Window}

/-- There is one way to crawl back. -/
theorem unique {windows others : List Window} (crawl : BackCrawl base items window windows)
    (other : BackCrawl base items window others) : others = windows := by
  induction crawl generalizing others with
  | first unlinked =>
      cases other with
      | first _ => rfl
      | back linked _ _ => cases unlinked.symm.trans linked
  | back linked named _ ih =>
      cases other with
      | first unlinked => cases unlinked.symm.trans linked
      | back linked' named' rest =>
          cases linked.symm.trans linked'
          cases named.unique named'
          rw [ih rest]

/-- What a crawl back takes that starts with a window on the page at `start`. -/
structure Takes (items : List α) (window : Window) (start : Nat) (windows : List Window) :
    Prop where
  places (index : Nat) :
    (∃ visited ∈ windows, visited.Holds index) ↔ index < start ∨ window.Holds index
  content : (windows.reverse.map fun visited => visited.slice items).flatten =
    items.take start ++ window.slice items

theorem takes_first (items : List α) (window : Window) : Takes items window 0 [window] where
  places index := by simp
  content := by simp

/-- The page before joins what was taken to what comes before it. -/
theorem Takes.back {start size : Nat} {windows : List Window}
    (takes : Takes items { limit := size, offset := start } start windows) (window : Window) :
    Takes items window (start + size) (window :: windows) where
  places index := by
    rw [List.exists_mem_cons_iff, takes.places]
    simp only [Window.Holds]
    omega
  content := by
    rw [List.reverse_cons, List.map_append, List.flatten_append, takes.content,
      Window.slice_append_slice]
    simp

/-- The token of a window, whose limit may be beyond the signed counts. -/
theorem ofWindow_eq_numbered (positive : 0 < window.limit) (fits : window.offset ≤ maxInt) :
    PageToken.ofWindow window.limit window.offset =
      .numbered (min window.limit maxInt) (window.offset / min window.limit maxInt) none := by
  have some : 0 < maxInt := by decide
  have bounded : PageToken.ofWindow window.limit window.offset =
      .ofWindow (min window.limit maxInt) window.offset := by
    simp only [PageToken.ofWindow, Window.clamp, Nat.min_assoc, Nat.min_self]
  rw [bounded, PageToken.ofWindow_eq_numbered (by omega) (Nat.min_le_right _ _) fits]

/-- A crawl back comes to the start of the list. -/
theorem exists_from (base : String) (items : List α) (window : Window)
    (positive : 0 < window.limit) (fits : window.offset ≤ maxInt) :
    ∃ windows, BackCrawl base items window windows ∧
      Takes items window
        (window.offset / min window.limit maxInt * min window.limit maxInt) windows := by
  have some : 0 < maxInt := by decide
  induction number : window.offset / min window.limit maxInt generalizing window with
  | zero =>
      have token := ofWindow_eq_numbered positive fits
      rw [number] at token
      refine ⟨[window], .first ?_, ?_⟩
      · rw [token]
        have start : (PageToken.numbered (min window.limit maxInt) 0 none).offset = 0 :=
          Nat.zero_mul _
        simp only [Pagination.of, PageToken.prev, start, Nat.lt_irrefl, if_false, Option.map_none]
      · rw [Nat.zero_mul]
        exact takes_first items window
  | succ index ih =>
      have token := ofWindow_eq_numbered positive fits
      rw [number] at token
      generalize size_eq : min window.limit maxInt = size at number token ⊢
      have sizePositive : 0 < size := by omega
      have sizeFits : size ≤ maxInt := by omega
      have within : (index + 1) * size ≤ maxInt := by
        rw [← number]
        exact Nat.le_trans (Nat.div_mul_le_self _ _) fits
      have sum : (index + 1) * size = index * size + size := by rw [Nat.add_mul, Nat.one_mul]
      let before : PageToken := .numbered size index none
      have earlier : (PageToken.numbered size (index + 1) none).prev = Option.some before :=
        PageToken.prev_numbered none sizePositive sizeFits within
      have bounded : before.Bounded := ⟨sizePositive, sizeFits, by
        change index * size ≤ maxInt
        omega⟩
      have same : min before.window.limit maxInt = size := Nat.min_eq_left sizeFits
      obtain ⟨windows, rest, takes⟩ := ih before.window sizePositive bounded.offsetFits (by
        rw [same]
        exact Nat.mul_div_cancel _ sizePositive)
      have linked : (Pagination.of base (.ofWindow window.limit window.offset)
          (window.slice items).length).prevUrl = Option.some (base ++ "?" ++ before.query) := by
        rw [token]
        simp only [Pagination.of, earlier, Option.map_some]
      refine ⟨window :: windows, .back linked (Window.namedBy_query bounded rfl base) rest, ?_⟩
      rw [same] at takes
      rw [sum]
      exact takes.back window

end BackCrawl

/-- A crawl back from any window ends, whatever its limit and offset are. It takes the whole pages
before the one that the window starts on, and then the window, each item once and in order if read
from the end. So of the items before the end of the window it leaves out those between the start
of that page and the window, and no others; from the start of a page it leaves out none. -/
theorem back_crawl_takes_pages_before (base : String) (items : List α) (limit offset : Nat)
    (positive : 1 ≤ limit) (fits : offset ≤ maxInt) :
    let window : Window := { limit, offset }
    let size := min limit maxInt
    let start := offset / size * size
    ∃ windows,
      BackCrawl base items window windows ∧
      (∀ others, BackCrawl base items window others → others = windows) ∧
      (∀ index < min (offset + limit) items.length,
        (∃ visited ∈ windows, visited.Holds index) ↔ ¬ (start ≤ index ∧ index < offset)) ∧
      (windows.reverse.map fun visited => visited.slice items).flatten =
        items.take start ++ (items.drop offset).take limit ∧
      (size ∣ offset →
        (windows.reverse.map fun visited => visited.slice items).flatten =
          items.take (offset + limit)) := by
  intro window size start
  obtain ⟨windows, crawl, takes⟩ := BackCrawl.exists_from base items window positive fits
  change BackCrawl.Takes items window start windows at takes
  refine ⟨windows, crawl, fun others other => crawl.unique other, ?_, takes.content, ?_⟩
  · intro index inside
    have holds : window.Holds index ↔ offset ≤ index ∧ index < offset + limit := Iff.rfl
    have onPage : start ≤ offset := Nat.div_mul_le_self _ _
    rw [takes.places, holds]
    omega
  · intro aligned
    have whole : start = offset := Nat.div_mul_cancel aligned
    rw [takes.content, whole]
    exact Window.slice_append_slice items offset limit

/-- A crawl back in tens that starts in the middle of a page comes to the pages before it, and not
to the first half of its own page. -/
theorem crawl_back_within_page :
    1 ≤ 10 ∧ 35 ≤ maxInt ∧ ∃ windows,
      BackCrawl "/list" (List.range 60) { limit := 10, offset := 35 } windows ∧
      (windows.reverse.map fun visited => visited.slice (List.range 60)).flatten =
        List.range 30 ++ List.range' 35 10 := by
  have fits : 35 ≤ maxInt := by decide
  obtain ⟨windows, crawl, -, -, content, -⟩ :=
    back_crawl_takes_pages_before "/list" (List.range 60) 10 35 (by decide) fits
  refine ⟨by decide, fits, windows, crawl, content.trans (by decide)⟩

/-- A crawl back may leave items out: from the eighth item on, in pages of 25, there is no link
back, and the first seven items are not taken. -/
theorem back_crawl_loses_items :
    ¬ ∀ (base : String) (items : List Nat) (limit offset : Nat), 1 ≤ limit → offset ≤ maxInt →
      ∃ windows, BackCrawl base items { limit, offset } windows ∧
        ∀ index < min (offset + limit) items.length, ∃ visited ∈ windows, visited.Holds index := by
  intro keeps
  let window : Window := { limit := 25, offset := 7 }
  have unlinked : (Pagination.of "/list" (.ofWindow window.limit window.offset)
      (window.slice (List.range 32)).length).prevUrl = none := by decide
  obtain ⟨windows, crawl, all⟩ := keeps "/list" (List.range 32) 25 7 (by decide) (by decide)
  have alone : windows = [window] := BackCrawl.unique (.first unlinked) crawl
  obtain ⟨visited, member, holds⟩ := all 0 (by decide)
  rw [alone, List.mem_singleton] at member
  rw [member] at holds
  exact absurd holds.1 (by decide)

end DatasetService
