import OpenApiJava.Proofs.ServiceUrls

/-!
# Parts of server URLs

The host of a server URL ends, and its base path starts, at the first slash from a position on: the
end of the first double slash, or the second character where there is no double slash. Main
statement: both parts make up the URL, the base path is empty or starts with a slash, a scheme
without slashes and the authority behind its double slash are the host, and in a URL without a
double slash only a slash in front does not count.
-/

namespace OpenApiJava.ServerUrl

/-! ## The first slash from a position on -/

/-- The first slash of the text from the start on stands at the index. -/
structure IsFirstSlash (text : List Char) (start index : Nat) : Prop where
  fromStart : start ≤ index
  slash : text[index]? = some '/'
  first : ∀ earlier, start ≤ earlier → earlier < index → text[earlier]? ≠ some '/'

/-- No slash stands in the text from the start on. -/
def HasNoSlashFrom (text : List Char) (start : Nat) : Prop :=
  ∀ index, start ≤ index → text[index]? ≠ some '/'

variable {text front host rest : List Char} {start index : Nat}

theorem getElem?_append_ne_slash (plain : '/' ∉ host) (fromStart : front.length ≤ index)
    (inside : index < front.length + host.length) :
    (front ++ (host ++ rest))[index]? ≠ some '/' := by
  intro slash
  rw [List.getElem?_append_right fromStart, List.getElem?_append_left (by omega)] at slash
  exact plain (List.mem_of_getElem? slash)

theorem isFirstSlash_append (front rest : List Char) (plain : '/' ∉ host) :
    IsFirstSlash (front ++ (host ++ '/' :: rest)) front.length (front.length + host.length) where
  fromStart := Nat.le_add_right front.length host.length
  slash := by simp
  first _ := getElem?_append_ne_slash plain

theorem hasNoSlashFrom_append (front : List Char) (plain : '/' ∉ host) :
    HasNoSlashFrom (front ++ host) front.length := by
  intro index fromStart slash
  rw [List.getElem?_append_right fromStart] at slash
  exact plain (List.mem_of_getElem? slash)

theorem IsFirstSlash.findIdx_eq (first : IsFirstSlash text start index) :
    start + (text.drop start).findIdx (· == '/') = index := by
  obtain ⟨more, rfl⟩ := Nat.exists_eq_add_of_le first.fromStart
  have slash : (text.drop start)[more]? = some '/' := by
    rw [List.getElem?_drop]
    exact first.slash
  obtain ⟨inside, isSlash⟩ := List.getElem?_eq_some_iff.mp slash
  have least : (text.drop start).findIdx (· == '/') = more := by
    rw [List.findIdx_eq inside]
    refine ⟨beq_iff_eq.mpr isSlash, fun earlier before => ?_⟩
    rw [beq_eq_false_iff_ne]
    intro same
    apply first.first (start + earlier) (by omega) (by omega)
    rw [← List.getElem?_drop, List.getElem?_eq_some_iff]
    exact ⟨_, same⟩
  rw [least]

theorem HasNoSlashFrom.length_le (noSlash : HasNoSlashFrom text start) :
    text.length ≤ start + (text.drop start).findIdx (· == '/') := by
  have none : (text.drop start).findIdx (· == '/') = (text.drop start).length := by
    rw [List.findIdx_eq_length]
    intro character member
    rw [beq_eq_false_iff_ne]
    rintro rfl
    obtain ⟨more, slash⟩ := List.mem_iff_getElem?.mp member
    rw [List.getElem?_drop] at slash
    exact noSlash (start + more) (by omega) slash
  rw [none, List.length_drop]
  omega

/-! ## Where a URL is cut -/

/-- Where the search for the slash that ends the host starts. -/
def searchStart (url : List Char) : Nat :=
  (doubleSlashEnd? url).getD 1

/-- A URL is cut at the index of the first slash from the start of the search on. -/
theorem splitChars_eq (url : List Char) :
    splitChars url =
      (url.take (searchStart url + (url.drop (searchStart url)).findIdx (· == '/')),
        url.drop (searchStart url + (url.drop (searchStart url)).findIdx (· == '/'))) := by
  have stop : (fun character : Char => !(character != '/')) = (· == '/') := by
    funext character
    exact Bool.not_not _
  rw [List.take_add, ← List.drop_drop, ← stop, ← List.takeWhile_eq_take_findIdx_not,
    ← List.dropWhile_eq_drop_findIdx_not]
  rfl

theorem splitChars_of_isFirstSlash (first : IsFirstSlash text (searchStart text) index) :
    splitChars text = (text.take index, text.drop index) := by
  rw [splitChars_eq, first.findIdx_eq]

theorem splitChars_of_hasNoSlashFrom (noSlash : HasNoSlashFrom text (searchStart text)) :
    splitChars text = (text, []) := by
  have long := noSlash.length_le
  rw [splitChars_eq, List.take_of_length_le long, List.drop_of_length_le long]

/-- The base path is empty or starts with a slash. -/
theorem head?_splitChars (url : List Char) :
    (splitChars url).2 = [] ∨ (splitChars url).2.head? = some '/' := by
  have stop := List.head?_dropWhile_not (· != '/') (url.drop (searchStart url))
  have same : (splitChars url).2 = (url.drop (searchStart url)).dropWhile (· != '/') := rfl
  rw [← same] at stop
  cases cut : (splitChars url).2 with
  | nil => exact Or.inl rfl
  | cons character rest =>
      rw [cut] at stop
      have isSlash : character = '/' := bne_eq_false_iff_eq.mp stop
      exact Or.inr (congrArg some isSlash)

/-! ## Where the search starts -/

/-- A double slash with no slash before it is the first one. -/
theorem searchStart_append (plain : '/' ∉ front) (rest : List Char) :
    searchStart (front ++ '/' :: '/' :: rest) = front.length + 2 := by
  have found : doubleSlashEnd? (front ++ '/' :: '/' :: rest) = some (front.length + 2) := by
    induction front with
    | nil => rfl
    | cons character others inductionHypothesis =>
        have different : character ≠ '/' := (List.ne_of_not_mem_cons plain).symm
        have later := inductionHypothesis (List.not_mem_of_not_mem_cons plain)
        rw [List.cons_append, doubleSlashEnd?, later]
        · rfl
        · exact fun _ isSlash => absurd isSlash different
  rw [searchStart, found, Option.getD_some]

theorem searchStart_of_not_infix (single : ¬ ['/', '/'] <:+: text) : searchStart text = 1 := by
  have none : doubleSlashEnd? text = none := by
    fun_induction doubleSlashEnd? text with
    | case1 => rfl
    | case2 rest => exact absurd ⟨[], rest, rfl⟩ single
    | case3 character rest _ inductionHypothesis =>
        have later : ¬ ['/', '/'] <:+: rest := fun double => single (List.infix_cons double)
        rw [inductionHypothesis later, Option.map_none]
  rw [searchStart, none, Option.getD_none]

/-! ## Hosts and base paths -/

/-- A scheme without slashes and the authority behind its double slash are the host. -/
theorem splitChars_authority {scheme authority path : List Char} (plainScheme : '/' ∉ scheme)
    (plain : '/' ∉ authority) (slash : path = [] ∨ path.head? = some '/') :
    splitChars (scheme ++ ['/', '/'] ++ (authority ++ path)) =
      (scheme ++ ['/', '/'] ++ authority, path) := by
  have start : searchStart (scheme ++ ['/', '/'] ++ (authority ++ path)) =
      (scheme ++ ['/', '/']).length := by
    rw [List.append_assoc, List.length_append]
    exact searchStart_append plainScheme (authority ++ path)
  cases path with
  | nil =>
      have noSlash := hasNoSlashFrom_append (scheme ++ ['/', '/']) plain
      rw [List.append_nil] at start ⊢
      exact splitChars_of_hasNoSlashFrom (start.symm ▸ noSlash)
  | cons character rest =>
      have isSlash : character = '/' := by simpa using slash
      subst isSlash
      have first := isFirstSlash_append (scheme ++ ['/', '/']) rest plain
      rw [← start] at first
      rw [splitChars_of_isFirstSlash first, start, ← List.length_append, ← List.append_assoc,
        List.take_left, List.drop_left]

theorem split_eq {url host basePath : String}
    (cut : splitChars url.toList = (host.toList, basePath.toList)) :
    split url = (host, basePath) := by
  rw [split, cut]
  simp only [String.ofList_toList]

/-- The host and the base path make up the URL, and the base path is empty or starts with a slash.
A scheme without slashes and the authority behind its double slash are the host, whatever path
follows. A URL without a double slash is cut at its first slash that is not in front. -/
theorem split_at_slash (url : String) :
    (split url).1 ++ (split url).2 = url ∧
      ((split url).2 = "" ∨ (split url).2.toList.head? = some '/') ∧
      (∀ scheme authority path : String, url = scheme ++ "//" ++ authority ++ path →
        '/' ∉ scheme.toList → '/' ∉ authority.toList →
        (path = "" ∨ path.toList.head? = some '/') →
        split url = (scheme ++ "//" ++ authority, path)) ∧
      (¬ ['/', '/'] <:+: url.toList →
        (∀ index, IsFirstSlash url.toList 1 index →
          split url =
            (String.ofList (url.toList.take index), String.ofList (url.toList.drop index))) ∧
        (HasNoSlashFrom url.toList 1 → split url = (url, ""))) := by
  refine ⟨split_append url, ?_, ?_, ?_⟩
  · simp only [split, String.toList_ofList, String.ofList_eq_empty_iff]
    exact head?_splitChars url.toList
  · rintro scheme authority path rfl plainScheme plain slash
    have slashes : path.toList = [] ∨ path.toList.head? = some '/' :=
      slash.imp_left (congrArg String.toList)
    apply split_eq
    have cut := splitChars_authority plainScheme plain slashes
    simp only [String.toList_append]
    rw [List.append_assoc]
    exact cut
  · intro single
    have start := searchStart_of_not_infix single
    constructor
    · intro index first
      apply split_eq
      rw [String.toList_ofList, String.toList_ofList]
      exact splitChars_of_isFirstSlash (start.symm ▸ first)
    · intro noSlash
      apply split_eq
      exact splitChars_of_hasNoSlashFrom (start.symm ▸ noSlash)

/-- An address, a path and a name are cut where they should be. -/
theorem split_three_urls :
    split "https://pets.example:8080/v1/x" = ("https://pets.example:8080", "/v1/x") ∧
      split "/api/v3" = ("/api", "/v3") ∧
      split "pets" = ("pets", "") := by
  refine ⟨?_, ?_, ?_⟩
  · obtain ⟨_, _, withAuthority, _⟩ := split_at_slash "https://pets.example:8080/v1/x"
    exact withAuthority "https:" "pets.example:8080" "/v1/x" (by decide) (by decide) (by decide)
      (by decide)
  · obtain ⟨_, _, _, withoutAuthority⟩ := split_at_slash "/api/v3"
    exact (withoutAuthority (by decide)).1 4 ⟨by decide, by decide, by decide⟩
  · obtain ⟨_, _, _, withoutAuthority⟩ := split_at_slash "pets"
    refine (withoutAuthority (by decide)).2 fun index _ slash => ?_
    exact absurd (List.mem_of_getElem? slash) (by decide)

end OpenApiJava.ServerUrl
