import TableCopy.Proofs.Copy.Ledger

/-!
# The pages of a source

A source answers each request for a page with the page that starts there. From a
request on, the pages of a segment form a chain, each naming the start of the next.
Whoever has to read a segment on has the rest of its chain before him.
-/

namespace TableCopy

variable {α ι : Type}

/-- The pages from a request on, up to the one that names no other. -/
inductive PageChain (source : PageRequest ι → Page α ι) : PageRequest ι → List (Page α ι) → Prop
  | last {request} (h : (source request).nextKey = none) :
    PageChain source request [source request]
  | next {request key pages} (h : (source request).nextKey = some key)
      (rest : PageChain source { request with startKey := some key } pages) :
    PageChain source request (source request :: pages)

namespace PageChain

variable {source : PageRequest ι → Page α ι} {request : PageRequest ι}
variable {pages pages' : List (Page α ι)}

/-- A request leads to one chain at most. -/
theorem unique (h : PageChain source request pages) (h' : PageChain source request pages') :
    pages = pages' := by
  induction h generalizing pages' with
  | last hnone =>
    cases h' with
    | last => rfl
    | next hsome =>
      rw [hnone] at hsome
      cases hsome
  | next hsome _ ih =>
    cases h' with
    | last hnone =>
      rw [hsome] at hnone
      cases hnone
    | next hsome' rest =>
      rw [hsome] at hsome'
      obtain rfl := Option.some.inj hsome'
      rw [ih rest]

/-- A page that names another has the chain of that other after it. -/
theorem exists_after (h : PageChain source request pages) {key : ι}
    (hkey : (source request).nextKey = some key) :
    ∃ rest, PageChain source { request with startKey := some key } rest := by
  cases h with
  | last hnone =>
    rw [hnone] at hkey
    cases hkey
  | next hsome rest =>
    rw [hsome] at hkey
    obtain rfl := Option.some.inj hkey
    exact ⟨_, rest⟩

end PageChain

/-- The items of a page. -/
def Page.contents (page : Page α ι) : Multiset ι := page.items

open Classical in
/-- The items on the pages from a request on; none when the chain has no end. -/
noncomputable def itemsFrom (source : PageRequest ι → Page α ι) (request : PageRequest ι) :
    Multiset ι :=
  if h : ∃ pages, PageChain source request pages then tally Page.contents h.choose else 0

/-- The items on the pages after one that names the start of the next. -/
noncomputable def itemsAfter (source : PageRequest ι → Page α ι) (request : PageRequest ι) :
    Option ι → Multiset ι
  | some key => itemsFrom source { request with startKey := some key }
  | none => 0

theorem itemsFrom_eq {source : PageRequest ι → Page α ι} {request : PageRequest ι}
    {pages : List (Page α ι)} (h : PageChain source request pages) :
    itemsFrom source request = tally Page.contents pages := by
  have hexists : ∃ pages, PageChain source request pages := ⟨pages, h⟩
  rw [itemsFrom, dif_pos hexists, hexists.choose_spec.unique h]

/-- The items from a request on are those of its page and those after it. -/
theorem itemsFrom_eq_add {source : PageRequest ι → Page α ι} {request : PageRequest ι}
    {pages : List (Page α ι)} (h : PageChain source request pages) :
    itemsFrom source request =
      (source request).items + itemsAfter source request (source request).nextKey := by
  rw [itemsFrom_eq h]
  cases h with
  | last hnone =>
    rw [hnone, tally_cons, tally_nil]
    rfl
  | next hsome rest =>
    rw [hsome, tally_cons, itemsAfter, itemsFrom_eq rest]
    rfl

/-- The answer of a source to a request, unless the request fails. -/
def Exchange.IsFrom (source : PageRequest ι → Page α ι) : Exchange α ι → Prop
  | ⟨.page request, .page (.returned (.ok page))⟩ => page = source request
  | _ => True

/-- The request for the page of a segment that starts at a key. -/
def Setup.request (setup : Setup α) (segment : Nat) (key : Option ι) : PageRequest ι where
  table := setup.scan.table
  segment
  totalSegments := setup.scan.plan.totalSegments.toNat
  consistentRead := setup.scan.consistentRead
  limit := setup.scan.pageLimit
  startKey := key

/-- The chain of a segment from a key on has an end. -/
def HasChain (setup : Setup α) (source : PageRequest ι → Page α ι) (segment : Nat)
    (key : Option ι) : Prop :=
  ∃ pages, PageChain source (setup.request segment key) pages

namespace Holder

variable (setup : Setup α) (source : PageRequest ι → Page α ι)

/-- The items that are still to be read by a holder. -/
noncomputable def unread : Holder α ι → Multiset ι
  | .control (.submitting left) | .control (.refused _ left) =>
    tally (fun number => itemsFrom source (setup.request number none)) left
  | .control (.beginning number left) | .control (.handing number left) =>
    itemsFrom source (setup.request number none) +
      tally (fun number => itemsFrom source (setup.request number none)) left
  | .segment ⟨number, key, _, .ready⟩ | .segment ⟨number, key, _, .checking⟩
  | .segment ⟨number, key, _, .connecting _⟩ | .segment ⟨number, key, _, .fetching _⟩
  | .segment ⟨number, key, _, .backingOff ..⟩ => itemsFrom source (setup.request number key)
  | .segment ⟨number, key, _, .charging page ..⟩ | .segment ⟨number, key, _, .recording page⟩ =>
    page.items + itemsAfter source (setup.request number key) page.nextKey
  | .segment ⟨number, key, _, .delivering nextKey _⟩
  | .segment ⟨number, key, _, .handing nextKey _⟩ =>
    itemsAfter source (setup.request number key) nextKey
  | _ => 0

/-- What a holder has still to read comes to an end. -/
def IsChained : Holder α ι → Prop
  | .control (.submitting left) | .control (.refused _ left) =>
    ∀ number ∈ left, HasChain setup source number none
  | .control (.beginning number left) | .control (.handing number left) =>
    HasChain setup source number none ∧ ∀ number ∈ left, HasChain setup source number none
  | .segment ⟨number, key, _, .ready⟩ | .segment ⟨number, key, _, .checking⟩
  | .segment ⟨number, key, _, .connecting _⟩ | .segment ⟨number, key, _, .fetching _⟩
  | .segment ⟨number, key, _, .backingOff ..⟩ => HasChain setup source number key
  | .segment ⟨number, _, _, .charging page ..⟩ | .segment ⟨number, _, _, .recording page⟩ =>
    ∀ key, page.nextKey = some key → HasChain setup source number (some key)
  | .segment ⟨number, _, _, .delivering nextKey _⟩
  | .segment ⟨number, _, _, .handing nextKey _⟩ =>
    ∀ key, nextKey = some key → HasChain setup source number (some key)
  | _ => True

end Holder
end TableCopy
