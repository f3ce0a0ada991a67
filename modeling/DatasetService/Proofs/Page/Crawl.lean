import DatasetService.Proofs.Page.Link

set_option autoImplicit false

/- Crawls along the pages of a list. A crawl may start anywhere in a page, and goes on at the start
of the page after it. It ends, and it takes all that the list has from its start on. -/
namespace DatasetService

namespace Window

/-- Where the page after that of a window starts. -/
def following (window : Window) : Nat := (window.offset / window.limit + 1) * window.limit

/-- The page after a window starts later than the window, and no later than the window ends. -/
theorem following_bounds (window : Window) (positive : 0 < window.limit) :
    window.offset < window.following ∧ window.following ≤ window.offset + window.limit := by
  have whole := Nat.div_add_mod window.offset window.limit
  have part := Nat.mod_lt window.offset positive
  rw [following, Nat.add_mul, Nat.one_mul, Nat.mul_comm (window.offset / window.limit)]
  omega

theorem following_of_dvd {window : Window} (aligned : window.limit ∣ window.offset) :
    window.following = window.offset + window.limit := by
  rw [following, Nat.add_mul, Nat.one_mul, Nat.div_mul_cancel aligned]

theorem clamp_limit_le (limit offset : Nat) : (clamp limit offset).limit ≤ maxInt := by
  have default : defaultLimit ≤ maxInt := by decide
  simp only [clamp, ofSigned]
  split
  · exact default
  · omega

end Window

namespace PageToken

/-- The window onto the whole page. -/
def window (token : PageToken) : Window := { limit := token.limit, offset := token.offset }

theorem ofWindow_eq_numbered {limit offset : Nat} (positive : 0 < limit)
    (limitFits : limit ≤ maxInt) (offsetFits : offset ≤ maxInt) :
    ofWindow limit offset = numbered limit (offset / limit) none := by
  rw [ofWindow_of_bounded positive limitFits offsetFits]
  rfl

end PageToken

variable {α : Type}

/-- The windows that a crawl takes, from a window and the token of its page on: it goes on with the
next page as long as there is a link. -/
inductive Crawl (base : String) (items : List α) : Window → PageToken → List (List α) → Prop
  | last {window : Window} {token : PageToken}
      (unlinked : (Pagination.of base token (window.slice items).length).nextUrl = none) :
      Crawl base items window token [window.slice items]
  | next {window : Window} {token : PageToken} {url : String} {windows : List (List α)}
      (linked : (Pagination.of base token (window.slice items).length).nextUrl = some url)
      (rest : Crawl base items token.next.window token.next windows) :
      Crawl base items window token (window.slice items :: windows)

namespace Crawl

variable {base : String} {items : List α}

/-- There is one way to crawl. -/
theorem unique {window : Window} {token : PageToken} {windows others : List (List α)}
    (crawl : Crawl base items window token windows)
    (other : Crawl base items window token others) : others = windows := by
  induction crawl generalizing others with
  | last unlinked =>
      cases other with
      | last _ => rfl
      | next linked _ => cases unlinked.symm.trans linked
  | next linked _ ih =>
      cases other with
      | last unlinked => cases unlinked.symm.trans linked
      | next _ rest => rw [ih rest]

/-- From anywhere in a list a crawl comes to an end. What follows its first window is the list from
the next page on. -/
theorem exists_from (base : String) (fits : items.length ≤ maxInt) (window : Window)
    (positive : 0 < window.limit) (limitFits : window.limit ≤ maxInt) :
    ∃ windows,
      Crawl base items window (.numbered window.limit (window.offset / window.limit) none) windows ∧
        windows.flatten = window.slice items ++
          if window.limit ≤ (window.slice items).length then items.drop window.following
          else [] := by
  induction left : items.length - window.offset using Nat.strongRecOn
    generalizing window with
  | ind left ih =>
      by_cases full : window.limit ≤ (window.slice items).length
      · have inside := (window.slice_full_iff items positive).mp full
        obtain ⟨later, inTime⟩ := window.following_bounds positive
        have within : window.following ≤ maxInt := by omega
        have next := PageToken.next_numbered none positive limitFits within
        let page : Window := { limit := window.limit, offset := window.following }
        have aligned : page.limit ∣ page.offset := Nat.dvd_mul_left _ _
        have number : page.offset / page.limit = window.offset / window.limit + 1 :=
          Nat.mul_div_cancel _ positive
        obtain ⟨windows, rest, flat⟩ :=
          ih (items.length - page.offset) (by dsimp only [page]; omega) page positive limitFits rfl
        rw [number] at rest
        rw [page.following_of_dvd aligned, page.slice_append_rest] at flat
        have linked : (Pagination.of base
            (.numbered window.limit (window.offset / window.limit) none)
            (window.slice items).length).nextUrl = some _ := if_pos full
        refine ⟨window.slice items :: windows, .next linked ?_, ?_⟩
        · rw [next]
          exact rest
        · rw [List.flatten_cons, flat, if_pos full]
      · have unlinked : (Pagination.of base
            (.numbered window.limit (window.offset / window.limit) none)
            (window.slice items).length).nextUrl = none := if_neg full
        exact ⟨[window.slice items], .last unlinked, by rw [if_neg full]; rfl⟩

end Crawl

/-- A crawl through a list whose length is a signed count ends, whatever its window is. It takes
the items of that window, and if they fill it all items from the next page on. So it loses nothing
of the list after its start, and from the start of a page it takes each item once. -/
theorem crawl_takes_rest (base : String) (items : List α) (fits : items.length ≤ maxInt)
    (limit offset : Nat) :
    let window := Window.clamp limit offset
    let first := (items.drop window.offset).take window.limit
    ∃ windows,
      Crawl base items window (.ofWindow window.limit window.offset) windows ∧
      (∀ others, Crawl base items window (.ofWindow window.limit window.offset) others →
        others = windows) ∧
      windows.flatten = first ++
        (if first.length = window.limit then
          items.drop ((window.offset / window.limit + 1) * window.limit)
        else []) ∧
      (items.drop window.offset).Sublist windows.flatten ∧
      (window.limit ∣ window.offset → windows.flatten = items.drop window.offset) := by
  intro window first
  have positive : 0 < window.limit := Window.clamp_limit_pos limit offset
  have limitFits : window.limit ≤ maxInt := Window.clamp_limit_le limit offset
  have offsetFits : window.offset ≤ maxInt := by
    rw [Window.clamp_offset]
    exact Nat.min_le_right _ _
  obtain ⟨windows, crawl, flat⟩ := Crawl.exists_from base fits window positive limitFits
  rw [← PageToken.ofWindow_eq_numbered positive limitFits offsetFits] at crawl
  have short : first.length ≤ window.limit := List.length_take_le _ _
  have filled : window.limit ≤ (window.slice items).length ↔ first.length = window.limit :=
    ⟨fun full => Nat.le_antisymm short full, fun same => Nat.le_of_eq same.symm⟩
  refine ⟨windows, crawl, fun others other => crawl.unique other, ?_, ?_, fun aligned => ?_⟩
  · rw [flat]
    simp only [filled]
    rfl
  · rw [flat, ← window.slice_append_rest items]
    refine List.Sublist.append_left ?_ _
    split
    · exact List.drop_sublist_drop_left items (window.following_bounds positive).2
    · exact List.Sublist.refl _
  · rw [flat, Window.following_of_dvd aligned, window.slice_append_rest]

/-- A crawl in threes that starts within a page comes to the rest of the page again. -/
theorem crawl_within_page :
    (List.range 7).length ≤ maxInt ∧ ∃ windows,
      Crawl "/list" (List.range 7) { limit := 3, offset := 2 } (.ofWindow 3 2) windows ∧
      windows.flatten = [2, 3, 4, 3, 4, 5, 6] := by
  have fits : (List.range 7).length ≤ maxInt := by decide
  obtain ⟨windows, crawl, -, flat, -, -⟩ := crawl_takes_rest "/list" (List.range 7) fits 3 2
  exact ⟨fits, windows, crawl, flat⟩

end DatasetService
