import Mathlib.Data.List.DropRight
import Mathlib.Data.List.Infix
import TableCopy.Client.Endpoint

/-!
# Hosts and regions of endpoints

An endpoint leads to a host: what follows its scheme, up to the first slash or colon. The
labels of a host make up the host again, so that a region is read off exactly those hosts
that are written around it. To write an endpoint in full adds the scheme that is missing and
takes off blanks, so that it leads to the same host as before.
-/

namespace TableCopy

namespace Text

/-- Whether a text has no blank at either end. -/
def IsTrimmed (text : List Char) : Prop :=
  (∀ c ∈ text.head?, isBlank c = false) ∧ ∀ c ∈ text.getLast?, isBlank c = false

theorem isBlank_of_mem_head?_trimStart {text : List Char} {c : Char}
    (h : c ∈ (trimStart text).head?) : isBlank c = false := by
  have hhead := List.head?_dropWhile_not isBlank text
  rw [← trimStart, Option.mem_def.1 h] at hhead
  exact hhead

theorem trimStart_of_head? {text : List Char} (h : ∀ c ∈ text.head?, isBlank c = false) :
    trimStart text = text := by
  cases text with
  | nil => rfl
  | cons c rest => exact List.dropWhile_cons_of_neg (Bool.eq_false_iff.1 (h c rfl))

theorem isTrimmed_trimChars (text : List Char) : IsTrimmed (trimChars text) := by
  constructor
  · intro c hc
    have hprefix : trimChars text <+: trimStart text := List.rdropWhile_prefix ..
    obtain ⟨rest, hrest⟩ := hprefix
    have hhead : c ∈ (trimStart text).head? := by
      rw [← hrest]
      exact List.mem_head?_append_of_mem_head? hc
    exact isBlank_of_mem_head?_trimStart hhead
  · intro c hc
    rw [trimChars, List.getLast?_reverse] at hc
    exact isBlank_of_mem_head?_trimStart hc

theorem trimChars_of_isTrimmed {text : List Char} (h : IsTrimmed text) :
    trimChars text = text := by
  have hlast : ∀ c ∈ text.reverse.head?, isBlank c = false := by
    rw [List.head?_reverse]
    exact h.2
  rw [trimChars, trimStart_of_head? h.1, trimStart_of_head? hlast, List.reverse_reverse]

theorem isTrimmed_trim (text : String) : IsTrimmed (trim text).toList := by
  rw [trim, String.toList_ofList]
  exact isTrimmed_trimChars _

theorem trim_of_isTrimmed {text : String} (h : IsTrimmed text.toList) : trim text = text := by
  rw [trim, trimChars_of_isTrimmed h, String.ofList_toList]

end Text

namespace Endpoint

/-- The mark between a scheme and an address. -/
def mark : List Char := "://".toList

/-- Whether a text is parted into a scheme and the rest by the first mark in it. -/
def IsParted (text scheme rest : List Char) : Prop :=
  text = scheme ++ mark ++ rest ∧
    ∀ before after, text = before ++ mark ++ after → scheme.length ≤ before.length

section Scheme

variable {text scheme rest : List Char}

theorem append_of_splitScheme (h : splitScheme text = some (scheme, rest)) :
    text = scheme ++ mark ++ rest := by
  fun_induction splitScheme text generalizing scheme with
  | case1 => cases h
  | case2 tail =>
    cases h
    rfl
  | case3 c tail hmark ih =>
    obtain ⟨⟨scheme', rest'⟩, htail, hparts⟩ := Option.map_eq_some_iff.1 h
    cases hparts
    rw [ih htail]
    rfl

/-- A text with a mark in it is parted at that mark or before it. -/
theorem exists_splitScheme {before after : List Char} (h : text = before ++ mark ++ after) :
    ∃ scheme rest, splitScheme text = some (scheme, rest) ∧ scheme.length ≤ before.length := by
  fun_induction splitScheme text generalizing before with
  | case1 => simp [mark] at h
  | case2 tail => exact ⟨[], tail, rfl, Nat.zero_le _⟩
  | case3 c tail hmark ih =>
    cases before with
    | nil =>
      obtain ⟨rfl, rfl⟩ := List.cons_eq_cons.1 h
      exact (hmark after rfl rfl).elim
    | cons d before =>
      obtain ⟨scheme, rest, htail, hlength⟩ := ih (List.cons_eq_cons.1 h).2
      exact ⟨c :: scheme, rest, by rw [htail]; rfl, Nat.succ_le_succ hlength⟩

theorem splitScheme_eq_some_iff :
    splitScheme text = some (scheme, rest) ↔ IsParted text scheme rest := by
  constructor
  · intro h
    refine ⟨append_of_splitScheme h, ?_⟩
    intro before after hbefore
    obtain ⟨scheme', rest', hfirst, hlength⟩ := exists_splitScheme hbefore
    cases h.symm.trans hfirst
    exact hlength
  · intro ⟨htext, hfirst⟩
    obtain ⟨scheme', rest', hsplit, hlength⟩ := exists_splitScheme htext
    have hparts := append_of_splitScheme hsplit
    have hge := hfirst scheme' rest' hparts
    rw [htext, List.append_assoc, List.append_assoc] at hparts
    obtain ⟨rfl, hrest⟩ := List.append_inj hparts (Nat.le_antisymm hge hlength)
    rw [List.append_cancel_left hrest]
    exact hsplit

theorem splitScheme_eq_none_iff : splitScheme text = none ↔ ¬mark <:+: text := by
  constructor
  · rintro h ⟨before, after, rfl⟩
    obtain ⟨scheme, rest, hsplit, -⟩ := exists_splitScheme rfl
    cases h.symm.trans hsplit
  · intro h
    refine Option.eq_none_iff_forall_not_mem.2 ?_
    rintro ⟨scheme, rest⟩ hsplit
    exact h ⟨scheme, rest, (append_of_splitScheme hsplit).symm⟩

end Scheme

/-- What an endpoint leads to: what follows the first mark, or all of it without a mark. -/
def IsAddress (endpoint address : List Char) : Prop :=
  (∃ scheme, IsParted endpoint scheme address) ∨ ¬mark <:+: endpoint ∧ address = endpoint

/-- The host of an endpoint: its address, cut before the first slash or colon. -/
def IsHost (endpoint host : List Char) : Prop :=
  ∃ path, IsAddress endpoint (host ++ path) ∧
    (∀ c ∈ host, c ≠ '/' ∧ c ≠ ':') ∧ ∀ c ∈ path.head?, c = '/' ∨ c = ':'

theorem isAddress_iff {endpoint address : List Char} :
    IsAddress endpoint address ↔
      address = ((splitScheme endpoint).map Prod.snd).getD endpoint := by
  cases hsplit : splitScheme endpoint with
  | none =>
    have hmark := splitScheme_eq_none_iff.1 hsplit
    constructor
    · rintro (⟨scheme, hparted⟩ | ⟨-, rfl⟩)
      · exact absurd ⟨scheme, address, hparted.1.symm⟩ hmark
      · rfl
    · exact fun h => .inr ⟨hmark, h⟩
  | some parts =>
    obtain ⟨scheme, rest⟩ := parts
    have hparted := splitScheme_eq_some_iff.1 hsplit
    constructor
    · rintro (⟨scheme', hparted'⟩ | ⟨hmark, -⟩)
      · have hsame := hsplit.symm.trans (splitScheme_eq_some_iff.2 hparted')
        cases hsame
        rfl
      · exact absurd ⟨scheme, rest, hparted.1.symm⟩ hmark
    · rintro rfl
      exact .inl ⟨scheme, hparted⟩

theorem isHost_iff {endpoint h : List Char} : IsHost endpoint h ↔ h = host endpoint := by
  have haddress := @isAddress_iff endpoint
  rw [host]
  generalize ((splitScheme endpoint).map Prod.snd).getD endpoint = address at haddress ⊢
  constructor
  · rintro ⟨path, hpath, hhost, hend⟩
    rw [← haddress.1 hpath, List.takeWhile_append_of_pos (by simpa using hhost)]
    cases path with
    | nil => rw [List.takeWhile_nil, List.append_nil]
    | cons c path =>
      have hdelimiter := hend c rfl
      rw [List.takeWhile_cons_of_neg (by simpa [or_iff_not_imp_left] using hdelimiter),
        List.append_nil]
  · rintro rfl
    refine ⟨address.dropWhile fun c => c != '/' && c != ':', ?_, ?_, ?_⟩
    · rw [List.takeWhile_append_dropWhile]
      exact haddress.2 rfl
    · intro c hc
      simpa using List.mem_takeWhile_imp hc
    · intro c hc
      have hhead := List.head?_dropWhile_not (fun c => c != '/' && c != ':') address
      rw [Option.mem_def.1 hc] at hhead
      simpa [or_iff_not_imp_left] using hhead

section Labels

theorem labels_eq_splitOn (text : List Char) : labels text = text.splitOn '.' := by
  induction text with
  | nil => rfl
  | cons c rest ih =>
    obtain ⟨label, more, hmore⟩ := List.exists_cons_of_ne_nil (labels_ne_nil rest)
    rw [List.splitOn_cons_eq_if_modifyHead, ← ih, labels, hmore]
    by_cases hdot : c = '.' <;> simp [hdot]

/-- Labels have no dot in them. -/
theorem dot_notMem_of_mem_labels (text : List Char) : ∀ label ∈ labels text, '.' ∉ label := by
  induction text with
  | nil =>
    intro label h
    obtain rfl := List.mem_singleton.1 h
    exact List.not_mem_nil
  | cons c rest ih =>
    obtain ⟨first, more, hmore⟩ := List.exists_cons_of_ne_nil (labels_ne_nil rest)
    rw [hmore] at ih
    rw [labels, hmore]
    intro label h
    split at h
    · obtain rfl | hlabel := List.mem_cons.1 h
      · exact List.not_mem_nil
      · exact ih label hlabel
    · rename_i hdot
      obtain ⟨hfirst, hrest⟩ := List.forall_mem_cons.1 ih
      obtain rfl | hlabel := List.mem_cons.1 h
      · exact List.not_mem_cons_of_ne_of_not_mem (Ne.symm hdot) hfirst
      · exact hrest label hlabel

end Labels

/-- Whether a host is written around a region: `dynamodb`, the region and `amazonaws`, with
dots between, and then nothing or a dot and anything. -/
def IsAround (region host : List Char) : Prop :=
  '.' ∉ region ∧ ∃ more, (∀ c ∈ more.head?, c = '.') ∧
    host = "dynamodb.".toList ++ region ++ ".amazonaws".toList ++ more

theorem labels_eq_iff {text region : List Char} :
    (∃ more, labels text = "dynamodb".toList :: region :: "amazonaws".toList :: more) ↔
      IsAround region text := by
  rw [labels_eq_splitOn]
  constructor
  · rintro ⟨more, hlabels⟩
    have hjoin : ['.'].intercalate (text.splitOn '.') = text := List.intercalate_splitOn '.'
    refine ⟨dot_notMem_of_mem_labels text _ ?_, ?_⟩
    · rw [labels_eq_splitOn, hlabels]
      simp
    · rw [← hjoin, hlabels]
      cases more with
      | nil => exact ⟨[], by simp, by simp [List.intercalate]⟩
      | cons label more =>
        exact ⟨'.' :: ['.'].intercalate (label :: more), by simp, by simp [List.intercalate]⟩
  · rintro ⟨hregion, more, hmore, rfl⟩
    have hprovider : ∃ rest, ("amazonaws".toList ++ more).splitOn '.' =
        "amazonaws".toList :: rest := by
      cases more with
      | nil => exact ⟨[], rfl⟩
      | cons c more =>
        obtain rfl := hmore c rfl
        exact ⟨more.splitOn '.', List.splitOn_append_cons_self_of_not_mem (by decide) more⟩
    obtain ⟨rest, hrest⟩ := hprovider
    refine ⟨rest, ?_⟩
    calc _ = ("dynamodb".toList ++ '.' :: (region ++ '.' :: ("amazonaws".toList ++ more))).splitOn
          '.' := by simp
      _ = "dynamodb".toList :: region :: ("amazonaws".toList ++ more).splitOn '.' := by
        rw [List.splitOn_append_cons_self_of_not_mem (by decide),
          List.splitOn_append_cons_self_of_not_mem hregion]
      _ = _ := by rw [hrest]

theorem region?_eq_some_iff {endpoint region : String} :
    region? endpoint = some region ↔ IsAround region.toList (host endpoint.toList) := by
  rw [← labels_eq_iff, region?]
  constructor
  · intro h
    split at h
    · rename_i service found provider more hlabels
      split at h
      · rename_i hnames
        obtain rfl := Option.some.inj h
        exact ⟨more, by simp only [hlabels, hnames.1, hnames.2, String.toList_ofList]⟩
      · cases h
    · cases h
  · rintro ⟨more, hlabels⟩
    simp [hlabels]

/-- A region that was read off an endpoint has no dot, slash or colon in it. -/
theorem of_mem_region? {endpoint region : String} (h : region ∈ region? endpoint) :
    ∀ c ∈ region.toList, c ≠ '.' ∧ c ≠ '/' ∧ c ≠ ':' := by
  obtain ⟨hdot, more, -, haround⟩ := region?_eq_some_iff.1 h
  obtain ⟨-, -, hhost, -⟩ := isHost_iff.2 (rfl : host endpoint.toList = _)
  intro c hc
  have hmem : c ∈ host endpoint.toList := by
    rw [haround]
    simp [hc]
  exact ⟨fun h => hdot (h ▸ hc), hhost c hmem⟩

section Normalize

variable (endpoint : String)

/-- Writing an endpoint in full takes the blanks off, and adds a scheme where there is none. -/
theorem normalize_cases :
    (mark <:+: (Text.trim endpoint).toList ∧ normalize endpoint = Text.trim endpoint) ∨
      (¬mark <:+: (Text.trim endpoint).toList ∧
        normalize endpoint = "https://" ++ Text.trim endpoint) := by
  cases hsplit : splitScheme (Text.trim endpoint).toList with
  | none => exact .inr ⟨splitScheme_eq_none_iff.1 hsplit, by simp [normalize, hsplit]⟩
  | some parts =>
    have hmark : mark <:+: (Text.trim endpoint).toList := by
      rw [← not_not (a := mark <:+: _), ← splitScheme_eq_none_iff, hsplit]
      exact Option.some_ne_none _
    exact .inl ⟨hmark, by simp [normalize, hsplit]⟩

theorem isTrimmed_normalize : Text.IsTrimmed (normalize endpoint).toList := by
  have htrim := Text.isTrimmed_trim endpoint
  obtain ⟨-, hnormal⟩ | ⟨-, hnormal⟩ := normalize_cases endpoint
  · rw [hnormal]
    exact htrim
  · rw [hnormal, String.toList_append]
    refine ⟨by simp [Text.isBlank], ?_⟩
    intro c hc
    rw [List.getLast?_append] at hc
    cases hlast : (Text.trim endpoint).toList.getLast? with
    | none =>
      rw [hlast] at hc
      obtain rfl : '/' = c := by simpa using hc
      decide
    | some d =>
      rw [hlast] at hc
      obtain rfl : d = c := by simpa using hc
      exact htrim.2 d hlast

theorem mark_infix_normalize : mark <:+: (normalize endpoint).toList := by
  obtain ⟨hmark, hnormal⟩ | ⟨-, hnormal⟩ := normalize_cases endpoint
  · rw [hnormal]
    exact hmark
  · rw [hnormal, String.toList_append]
    exact ⟨"https".toList, (Text.trim endpoint).toList, rfl⟩

/-- An endpoint that is written in full stays as it is. -/
theorem normalize_of_isTrimmed {endpoint : String} (hmark : mark <:+: endpoint.toList)
    (htrimmed : Text.IsTrimmed endpoint.toList) : normalize endpoint = endpoint := by
  have htrim := Text.trim_of_isTrimmed htrimmed
  obtain ⟨-, hnormal⟩ | ⟨habsent, -⟩ := normalize_cases endpoint
  · rw [hnormal, htrim]
  · rw [htrim] at habsent
    exact absurd hmark habsent

theorem host_normalize : host (normalize endpoint).toList = host (Text.trim endpoint).toList := by
  obtain ⟨-, hnormal⟩ | ⟨habsent, hnormal⟩ := normalize_cases endpoint
  · rw [hnormal]
  · have hscheme : splitScheme ("https://" ++ Text.trim endpoint).toList =
        some ("https".toList, (Text.trim endpoint).toList) := by
      rw [String.toList_append]
      rfl
    rw [hnormal, host, host, hscheme, splitScheme_eq_none_iff.2 habsent]
    rfl

end Normalize

/-- An endpoint written in full stays as it is when it is written in full again, has a scheme
and no blank at either end, and names the region that it named without its blanks. Of any
endpoint, the part after the first mark, or all of it without a mark, up to the first slash or
colon is its one host; it names just the region that the host is written around, and a region
that is named has no dot, slash or colon in it. -/
theorem normalize_keeps_region (endpoint : String) :
    normalize (normalize endpoint) = normalize endpoint ∧
      mark <:+: (normalize endpoint).toList ∧ Text.IsTrimmed (normalize endpoint).toList ∧
      region? (normalize endpoint) = region? (Text.trim endpoint) ∧
      (∀ h, IsHost endpoint.toList h ↔ h = host endpoint.toList) ∧
      (∀ region, region? endpoint = some region ↔
        IsAround region.toList (host endpoint.toList)) ∧
      ∀ region ∈ region? endpoint, ∀ c ∈ region.toList, c ≠ '.' ∧ c ≠ '/' ∧ c ≠ ':' := by
  have hmark := mark_infix_normalize endpoint
  have htrimmed := isTrimmed_normalize endpoint
  have hregion : region? (normalize endpoint) = region? (Text.trim endpoint) := by
    rw [region?, region?, host_normalize]
  exact ⟨normalize_of_isTrimmed hmark htrimmed, hmark, htrimmed, hregion, fun _ => isHost_iff,
    fun _ => region?_eq_some_iff, fun _ h => of_mem_region? h⟩

/-- A bare host between blanks is reached over https, in the region that stands in it. -/
theorem normalize_keeps_region_of_bare :
    normalize " dynamodb.eu-west-1.amazonaws.com:443 " =
        "https://dynamodb.eu-west-1.amazonaws.com:443" ∧
      region? (normalize " dynamodb.eu-west-1.amazonaws.com:443 ") = some "eu-west-1" ∧
      IsHost "dynamodb.eu-west-1.amazonaws.com:443".toList
        "dynamodb.eu-west-1.amazonaws.com".toList := by
  obtain ⟨-, -, -, hsame, -⟩ := normalize_keeps_region " dynamodb.eu-west-1.amazonaws.com:443 "
  obtain ⟨-, -, -, -, hhost, hregion, -⟩ :=
    normalize_keeps_region "dynamodb.eu-west-1.amazonaws.com:443"
  have htrim : Text.trim " dynamodb.eu-west-1.amazonaws.com:443 " =
      "dynamodb.eu-west-1.amazonaws.com:443" := by decide
  have hfound : host "dynamodb.eu-west-1.amazonaws.com:443".toList =
      "dynamodb.eu-west-1.amazonaws.com".toList := by decide
  refine ⟨by decide, ?_, (hhost _).2 hfound.symm⟩
  rw [hsame, htrim]
  exact (hregion "eu-west-1").2 ⟨by decide, ".com".toList, by simp, by rw [hfound]; decide⟩

end Endpoint
end TableCopy
