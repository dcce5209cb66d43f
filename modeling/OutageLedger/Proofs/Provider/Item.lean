import OutageLedger.Proofs.Http.Credentials
import OutageLedger.Proofs.Url.Segment
import OutageLedger.Provider.Service

/-
  Addresses of single alerts. A base with a host keeps all but its path, and the path of an item follows from what
  is left of its id (`ProviderClient.exists_getItem`). Main statements: `item_is_one_segment`, an id without tabs
  and line breaks that is neither `.` nor `..` is a segment of its own and denotes itself, and
  `items_told_apart`, which ids are, and which ids come to the same address.
-/

namespace OutageLedger

open Text

namespace Source

variable (source : Source)

theorem isPlain_of_mem_collection {name : String} (h : name ∈ source.collection) : Url.isPlain name = true := by
  cases source <;> simp only [collection, List.mem_cons, List.not_mem_nil, or_false] at h
  · subst h
    decide
  · rcases h with rfl | rfl <;> decide

/-- The path of an item, of whose id something is left. -/
def itemPath (segs : List (List Char)) (left : Option (List Char)) : List (List Char) :=
  Url.place true (Url.trunk segs ++ source.collection.map String.toList) left

/-- Each collection ends with a name. -/
theorem exists_collection_end (segs : List (List Char)) :
    ∃ front last, Url.trunk segs ++ source.collection.map String.toList = front ++ [last] ∧
      last ≠ [] ∧ Url.isDrive last = false := by
  cases source with
  | pagerDuty => exact ⟨Url.trunk segs, "incidents".toList, rfl, by decide, by decide⟩
  | opsGenie =>
    refine ⟨Url.trunk segs ++ ["v2".toList], "alerts".toList, ?_, by decide, by decide⟩
    rw [List.append_assoc]
    rfl

theorem itemPath_injective (segs : List (List Char)) : Function.Injective (source.itemPath segs) := by
  obtain ⟨front, last, heq, hlast, hdrive⟩ := source.exists_collection_end segs
  unfold itemPath
  rw [heq]
  exact Url.place_injective hlast hdrive

theorem itemPath_eq_append_iff (segs : List (List Char)) (left : Option (List Char)) :
    (∃ segment, source.itemPath segs left =
        Url.trunk segs ++ source.collection.map String.toList ++ [segment]) ↔
      left ≠ none ∧ left ≠ some ['.', '.'] := by
  obtain ⟨front, last, heq, hlast, hdrive⟩ := source.exists_collection_end segs
  unfold itemPath
  rw [heq]
  exact Url.place_eq_append_iff hlast hdrive

theorem itemPath_of_unmarked (segs : List (List Char)) {id : String} (hid : id ≠ "." ∧ id ≠ "..")
    (hmarks : ∀ d ∈ id.toList, Url.isLineMark d = false) :
    source.itemPath segs (Url.settled id) =
      Url.trunk segs ++ source.collection.map String.toList ++ [percentEncode (inSegment true) id.toList] := by
  obtain ⟨front, last, heq, hlast, hdrive⟩ := source.exists_collection_end segs
  have habove : id.toList ≠ ['.', '.'] := fun h => hid.2 (String.toList_injective h)
  unfold itemPath
  rw [Url.settled_of_unmarked hid hmarks, heq, Url.place_some hlast hdrive, if_neg habove]

end Source

namespace ProviderClient

variable {c : ProviderClient} {u : Url}

/-- The address of an item of a base on the web. -/
theorem exists_getItem (hbase : Url.ofText c.baseUrl = .ok u)
    (hweb : u.scheme = "http".toList ∨ u.scheme = "https".toList) (source : Source) :
    ∃ segs, u.path = .segments segs ∧ ∀ id,
      let address := { u with path := .segments (source.itemPath segs (Url.settled id)) }
      c.itemUrl source.collection id = .ok address ∧
        c.getItem source.collection id =
          .ok ⟨address.withoutUser, HttpRequest.headersAt u c.headers⟩ := by
  have hport : (Url.defaultPort? u.scheme).isSome = true := by
    rcases hweb with h | h <;> rw [h] <;> rfl
  have hspecial : Url.isSpecial u.scheme = true := by
    rcases hweb with h | h <;> rw [h] <;> rfl
  obtain ⟨hhost, segs, hsegs, hpath⟩ := Url.hosted_of_ofText hbase hport
  refine ⟨segs, hpath, fun id => ?_⟩
  have hnames : source.collection ≠ [] := by
    cases source <;> exact List.cons_ne_nil _ _
  have hitem := Url.extend?_concat hpath hsegs hnames (fun _ => source.isPlain_of_mem_collection) id
  rw [hspecial] at hitem
  have haddress : c.itemUrl source.collection id =
      .ok { u with path := .segments (source.itemPath segs (Url.settled id)) } := by
    unfold itemUrl
    rw [hbase]
    dsimp only
    rw [hitem]
    rfl
  refine ⟨haddress, ?_⟩
  unfold getItem
  rw [haddress]
  exact if_pos hhost

end ProviderClient

/-- On every base of the web that is read, for either service: an id without tabs and line breaks that is neither
`.` nor `..` is the one segment after the names of the collection. It has no mark of an address in it and denotes
the id. All but the path is as in the base; credentials in it go into a header when the request is made. -/
theorem item_is_one_segment {c : ProviderClient} {u : Url} (hbase : Url.ofText c.baseUrl = .ok u)
    (hweb : u.scheme = "http".toList ∨ u.scheme = "https".toList) (source : Source) {id : String}
    (hid : id ≠ "." ∧ id ≠ "..") (hmarks : ∀ d ∈ id.toList, Url.isLineMark d = false) :
    ∃ segs segment address, u.path = .segments segs ∧
      address = { u with
        path := .segments (Url.trunk segs ++ source.collection.map String.toList ++ [segment]) } ∧
      c.itemUrl source.collection id = .ok address ∧
      c.getItem source.collection id = .ok ⟨address.withoutUser, HttpRequest.headersAt u c.headers⟩ ∧
      (∀ d ∈ ['/', '?', '#', '\\'], d ∉ segment) ∧ percentDecode segment = Utf8.encode id.toList := by
  obtain ⟨segs, hpath, hitem⟩ := ProviderClient.exists_getItem hbase hweb source
  obtain ⟨haddress, hrequest⟩ := hitem id
  have hpath' := source.itemPath_of_unmarked segs hid hmarks
  rw [hpath'] at haddress hrequest
  refine ⟨segs, _, _, hpath, rfl, haddress, hrequest, ?_, percentDecode_percentEncode rfl _⟩
  intro d hd
  simp only [List.mem_cons, List.not_mem_nil, or_false] at hd
  rcases hd with rfl | rfl | rfl | rfl <;> exact not_mem_percentEncode (by decide) (by decide) (by decide) _

namespace Sample

/-- A user, and a path of two empty segments. -/
def userBase : Url :=
  ⟨"http".toList, "user".toList, some "pw".toList, some (.ipv6 [0, 0, 0, 0, 0, 0, 0, 1]), none,
    .segments [[], []], some "q".toList, none⟩

/-- The address of an item of that base. -/
def userItem : Url :=
  { userBase with path := .segments ["incidents".toList, "P1".toList] }

def userClient : ProviderClient :=
  ⟨.pagerDuty, "http://user:pw@[::1]//?q", []⟩

def portBase : Url :=
  ⟨"https".toList, [], none, some (.ipv6 [0, 0, 0, 0, 0, 0, 0, 1]), some 8443, .segments ["x".toList], none, none⟩

def portClient : ProviderClient :=
  ⟨.opsGenie, "https://[::1]:8443/x", []⟩

end Sample

/-- More than an empty segment at the end can go: the user and the password, and both of two empty segments. -/
theorem item_leaves_user_and_slashes :
    ProviderClient.ofHeaders .pagerDuty Sample.userClient.baseUrl [] = .ok Sample.userClient ∧
      Url.ofText Sample.userClient.baseUrl = .ok Sample.userBase ∧
      ∃ r, Sample.userClient.getItem Source.pagerDuty.collection "P1" = .ok r ∧
        r.url.username ≠ Sample.userBase.username ∧ r.url.password ≠ Sample.userBase.password ∧
        ∀ segment,
          r.url.path ≠ .segments ([[]] ++ Source.pagerDuty.collection.map String.toList ++ [segment]) := by
  have hrequest : Sample.userClient.getItem Source.pagerDuty.collection "P1" =
      .ok ⟨Sample.userItem.withoutUser, HttpRequest.headersAt Sample.userItem []⟩ := rfl
  have hwithout : Sample.userItem.withoutUser = { Sample.userItem with username := [], password := none } := by
    decide +kernel
  rw [hwithout] at hrequest
  refine ⟨rfl, rfl, _, hrequest, by decide, by decide, fun segment h => ?_⟩
  have hlength := congrArg List.length (UrlPath.segments.inj h)
  cases hlength

/-- An id that looks like a way up, with dots by their codes. -/
theorem item_is_one_segment_of_slashes :
    (∀ d ∈ "../%2e%2E?#".toList, Url.isLineMark d = false) ∧
      ∃ segment r, Sample.portClient.getItem Source.opsGenie.collection "../%2e%2E?#" = .ok r ∧
        r.url = { Sample.portBase with path := .segments ["x".toList, "v2".toList, "alerts".toList, segment] } ∧
        '/' ∉ segment ∧ percentDecode segment = Utf8.encode "../%2e%2E?#".toList := by
  have hnoMark : "../%2e%2E?#".toList.any Url.isLineMark = false := by decide
  have hmarks : ∀ d ∈ "../%2e%2E?#".toList, Url.isLineMark d = false :=
    fun d hd => Bool.eq_false_iff.mpr (List.any_eq_false.mp hnoMark d hd)
  have hbase : Url.ofText Sample.portClient.baseUrl = .ok Sample.portBase := rfl
  obtain ⟨segs, segment, _, hpath, rfl, -, hrequest, hnone, hdenotes⟩ :=
    item_is_one_segment hbase (Or.inr rfl) .opsGenie (by decide) hmarks
  obtain rfl := UrlPath.segments.inj hpath
  exact ⟨hmarks, segment, _, hrequest, Url.HasNoUser.withoutUser ⟨rfl, rfl⟩, hnone '/' (by decide), hdenotes⟩

/-- On every base of the web that is read, for either service: the id of an item is the one segment after the
names of the collection unless it is `.` or `..` or is `..` without its tabs and line breaks, and two ids come to
the same address exactly if the same is left of them. -/
theorem items_told_apart {c : ProviderClient} {u : Url} (hbase : Url.ofText c.baseUrl = .ok u)
    (hweb : u.scheme = "http".toList ∨ u.scheme = "https".toList) (source : Source) :
    ∃ segs, u.path = .segments segs ∧ ∀ id, ∃ r, c.getItem source.collection id = .ok r ∧
      ((∃ segment, r.url.path =
          .segments (Url.trunk segs ++ source.collection.map String.toList ++ [segment])) ↔
        (id ≠ "." ∧ id ≠ "..") ∧ Url.passed id ≠ ['.', '.']) ∧
      ∀ id' r', c.getItem source.collection id' = .ok r' →
        (r.url = r'.url ↔ Url.settled id = Url.settled id') := by
  obtain ⟨segs, hpath, hitem⟩ := ProviderClient.exists_getItem hbase hweb source
  refine ⟨segs, hpath, fun id => ⟨_, (hitem id).2, ?_, ?_⟩⟩
  · rw [Url.withoutUser_path]
    simp only [UrlPath.segments.injEq]
    rw [source.itemPath_eq_append_iff, ne_eq, ne_eq, Url.settled_eq_none_iff, Url.settled_eq_above_iff, not_or]
    exact and_congr_right fun hdots => not_congr (and_iff_right hdots)
  · intro id' r' hr'
    rw [(hitem id').2] at hr'
    obtain rfl := Except.ok.inj hr'
    simp only [Url.withoutUser_path, Url.mk.injEq, UrlPath.segments.injEq, true_and, and_true]
    exact (source.itemPath_injective segs).eq_iff

/-- A dot asks for the whole collection, and two dots with a tab between them for what is above it. A tab between
letters makes no difference. -/
theorem items_not_told_apart :
    (∃ r, Sample.portClient.getItem Source.opsGenie.collection "." = .ok r ∧
      r.url = { Sample.portBase with path := .segments ["x".toList, "v2".toList, "alerts".toList] }) ∧
      (∃ r, Sample.portClient.getItem Source.opsGenie.collection ".\t." = .ok r ∧
        r.url = { Sample.portBase with path := .segments ["x".toList, "v2".toList, []] }) ∧
      ∃ r, Sample.portClient.getItem Source.opsGenie.collection "a\tb" = .ok r ∧
        Sample.portClient.getItem Source.opsGenie.collection "ab" = .ok r := by
  refine ⟨⟨_, rfl, ?_⟩, ⟨_, rfl, ?_⟩, ⟨_, rfl, rfl⟩⟩
  · exact Url.HasNoUser.withoutUser ⟨rfl, rfl⟩
  · exact Url.HasNoUser.withoutUser ⟨rfl, rfl⟩

/-- Dots by their codes are a segment, and not the dots. -/
theorem items_told_apart_of_codes :
    ∃ r r', Sample.portClient.getItem Source.opsGenie.collection "%2e%2e" = .ok r ∧
      (∃ segment, r.url.path = .segments ["x".toList, "v2".toList, "alerts".toList, segment]) ∧
      Sample.portClient.getItem Source.opsGenie.collection ".." = .ok r' ∧ r.url ≠ r'.url := by
  have hbase : Url.ofText Sample.portClient.baseUrl = .ok Sample.portBase := rfl
  obtain ⟨segs, hpath, hitems⟩ := items_told_apart hbase (Or.inr rfl) .opsGenie
  obtain rfl := UrlPath.segments.inj hpath
  obtain ⟨r, hr, hsegment, hsame⟩ := hitems "%2e%2e"
  obtain ⟨r', hr', -⟩ := hitems ".."
  refine ⟨r, r', hr, hsegment.mpr (by decide), hr', fun h => ?_⟩
  exact absurd ((hsame ".." r' hr').mp h) (by decide)

end OutageLedger
