import EndpointSync.Config
import EndpointSync.Cluster.Request
import EndpointSync.Rules.OfKind
import Mathlib.Data.List.TakeWhile

/-!
# What a request carries

The target of a request is put together as a text, and what is sent is what that text falls apart
into. A version becomes part of it in an encoding, which keeps it in one piece: of the characters of
an encoded text none ends a pair or the query, and the text can be read back
(`Request.formDecoded?_formEncoded`). So a request for a watch carries the version that it was made
for, unless the namespace spoils the path.
-/

namespace EndpointSync

namespace Request

/-! ## A text in a query -/

def hexValue (c : Char) : Nat := if c.isDigit then c.toNat - 48 else c.toNat - 55

/-- The octets that a text in a query stands for. -/
def decodeOctets : List Char → List UInt8
  | '%' :: high :: low :: rest =>
    UInt8.ofNat (16 * hexValue high + hexValue low) :: decodeOctets rest
  | '+' :: rest => 32 :: decodeOctets rest
  | c :: rest => UInt8.ofNat c.toNat :: decodeOctets rest
  | [] => []

/-- The text that was written in a query. -/
def formDecoded? (s : String) : Option String :=
  String.fromUTF8? ⟨(decodeOctets s.toList).toArray⟩

/-- What is written for an octet is one character that stands for itself, or a plus sign, or a
percent sign with two digits. -/
private def IsCodeOf (b : UInt8) : List Char → Prop
  | [c] => if c = '+' then b = 32 else c ≠ '%' ∧ UInt8.ofNat c.toNat = b
  | ['%', high, low] => UInt8.ofNat (16 * hexValue high + hexValue low) = b
  | _ => False

private instance (b : UInt8) (cs : List Char) : Decidable (IsCodeOf b cs) := by
  unfold IsCodeOf
  split <;> infer_instance

/-- A character of one octet that ends neither a pair nor the query. -/
def IsInert (c : Char) : Prop := isQueryChar c = true ∧ c ≠ '&' ∧ c.utf8Size = 1

instance (c : Char) : Decidable (IsInert c) := by
  unfold IsInert
  infer_instance

private theorem encodeOctet_ofNat : ∀ n < 256,
    IsCodeOf (UInt8.ofNat n) (encodeOctet (UInt8.ofNat n)) ∧
      (encodeOctet (UInt8.ofNat n)).all (IsInert ·) = true := by
  decide +kernel

private theorem isCodeOf_encodeOctet (b : UInt8) : IsCodeOf b (encodeOctet b) := by
  have h := (encodeOctet_ofNat b.toNat b.toNat_lt).1
  rwa [UInt8.ofNat_toNat] at h

private theorem isInert_of_mem_encodeOctet {b : UInt8} {c : Char} (h : c ∈ encodeOctet b) :
    IsInert c := by
  have hall := (encodeOctet_ofNat b.toNat b.toNat_lt).2
  rw [UInt8.ofNat_toNat, List.all_eq_true] at hall
  exact of_decide_eq_true (hall c h)

private theorem decodeOctets_append {b : UInt8} {cs : List Char} (h : IsCodeOf b cs)
    (rest : List Char) : decodeOctets (cs ++ rest) = b :: decodeOctets rest := by
  unfold IsCodeOf at h
  split at h
  · split at h
    next hplus =>
      subst hplus h
      rfl
    next hplus =>
      obtain ⟨hpercent, rfl⟩ := h
      rw [List.singleton_append, decodeOctets]
      · intro high low later hsame
        exact absurd hsame hpercent
      · exact hplus
  · rw [← h]
    rfl
  · exact absurd h not_false

private theorem length_le_of_isCodeOf {b : UInt8} {cs : List Char} (h : IsCodeOf b cs) :
    cs.length ≤ 3 := by
  unfold IsCodeOf at h
  split at h
  · simp
  · simp
  · exact absurd h not_false

private theorem decodeOctets_flatMap (bs : List UInt8) :
    decodeOctets (bs.flatMap encodeOctet) = bs := by
  induction bs with
  | nil => rfl
  | cons b rest ih => rw [List.flatMap_cons, decodeOctets_append (isCodeOf_encodeOctet b), ih]

/-- **A text in a query can be read back.** -/
theorem formDecoded?_formEncoded (s : String) : formDecoded? (formEncoded s) = some s := by
  rw [formDecoded?, formEncoded, String.toList_ofList, decodeOctets_flatMap, String.fromUTF8?]
  rw [dif_pos (by simpa using s.isValidUTF8)]
  rfl

/-- The version `b c/%` has a blank, a slash and a percent sign. -/
example : formEncoded "b c/%" = "b+c%2F%25" ∧ formDecoded? "b+c%2F%25" = some "b c/%" := by
  decide +kernel

theorem isInert_of_mem_formEncoded {s : String} {c : Char} (h : c ∈ (formEncoded s).toList) :
    IsInert c := by
  rw [formEncoded, String.toList_ofList, List.mem_flatMap] at h
  obtain ⟨b, -, hc⟩ := h
  exact isInert_of_mem_encodeOctet hc

private theorem length_flatMap_encodeOctet_le (bs : List UInt8) :
    (bs.flatMap encodeOctet).length ≤ 3 * bs.length := by
  induction bs with
  | nil => simp
  | cons b rest ih =>
    have hfirst := length_le_of_isCodeOf (isCodeOf_encodeOctet b)
    rw [List.flatMap_cons, List.length_append, List.length_cons]
    omega

private theorem utf8ByteSize_ofList_of_isInert {cs : List Char} (h : ∀ c ∈ cs, IsInert c) :
    (String.ofList cs).utf8ByteSize = cs.length := by
  induction cs with
  | nil => rfl
  | cons c rest ih =>
    obtain ⟨hc, hrest⟩ := List.forall_mem_cons.mp h
    rw [← List.singleton_append, String.ofList_append, String.utf8ByteSize_append, ih hrest,
      ← String.singleton_eq_ofList, String.utf8ByteSize_singleton, hc.2.2, List.length_append,
      List.length_singleton]

theorem utf8ByteSize_formEncoded_le (s : String) :
    (formEncoded s).utf8ByteSize ≤ 3 * s.utf8ByteSize := by
  have hsize : s.toUTF8.data.toList.length = s.utf8ByteSize := by
    rw [Array.length_toList, ← String.size_toByteArray]
    rfl
  rw [formEncoded, utf8ByteSize_ofList_of_isInert, ← hsize]
  · exact length_flatMap_encodeOctet_le _
  · intro c hc
    obtain ⟨b, -, hb⟩ := List.mem_flatMap.mp hc
    exact isInert_of_mem_encodeOctet hb

/-! ## A target and its parts -/

/-- All of a text can stand in a path. -/
def IsPlain (s : String) : Prop := ∀ c ∈ s.toList, isPathChar c = true

instance (s : String) : Decidable (IsPlain s) :=
  decidable_of_iff (s.toList.all isPathChar = true) List.all_eq_true

theorem IsPlain.append {s t : String} (hs : IsPlain s) (ht : IsPlain t) : IsPlain (s ++ t) := by
  intro c hc
  rw [String.toList_append, List.mem_append] at hc
  rcases hc with hc | hc
  · exact hs c hc
  · exact ht c hc

private theorem ne_of_isPathChar {c : Char} (h : isPathChar c = true) : c ≠ '#' ∧ c ≠ '?' := by
  constructor
  · rintro rfl
    exact absurd h (by decide)
  · rintro rfl
    exact absurd h (by decide)

private theorem ne_of_isQueryChar {c : Char} (h : isQueryChar c = true) : c ≠ '#' := by
  rintro rfl
  exact absurd h (by decide)

theorem ofTarget?_eq {path query : String} (hpath : IsPlain path)
    (hquery : ∀ c ∈ query.toList, isQueryChar c = true) :
    ofTarget? (path ++ "?" ++ query) =
      if (path ++ "?" ++ query).utf8ByteSize ≤ maxLength
        then some ⟨path, pairs query.toList⟩ else none := by
  have htarget : (path ++ "?" ++ query).toList = path.toList ++ '?' :: query.toList := by
    rw [String.toList_append, String.toList_append, List.append_assoc]
    rfl
  have hsent : (path.toList ++ '?' :: query.toList).takeWhile (· ≠ '#')
      = path.toList ++ '?' :: query.toList := by
    refine List.takeWhile_eq_self_iff.mpr fun c hc ↦ decide_eq_true ?_
    rcases List.mem_append.mp hc with hc | hc
    · exact (ne_of_isPathChar (hpath c hc)).1
    · rcases List.mem_cons.mp hc with rfl | hc
      · decide
      · exact ne_of_isQueryChar (hquery c hc)
  have hbefore : ∀ c ∈ path.toList, decide (c ≠ '?') = true := fun c hc ↦
    decide_eq_true (ne_of_isPathChar (hpath c hc)).2
  have hallPath : path.toList.all isPathChar = true := List.all_eq_true.mpr hpath
  have hallQuery : query.toList.all isQueryChar = true := List.all_eq_true.mpr hquery
  rw [ofTarget?, htarget, hsent, List.takeWhile_append_of_pos hbefore,
    List.dropWhile_append_of_pos hbefore]
  simp [hallPath, hallQuery, String.ofList_toList]

private theorem pairs_append (before after : List Char) :
    pairs (before ++ '&' :: after) = pairs before ++ pairs after := by
  rw [pairs, pairs, pairs, List.splitOn, List.splitOnP_append_cons _ _ (by simp),
    List.filterMap_append]
  rfl

private theorem pairs_singleton {name value : List Char} (hname : '=' ∉ name) (hname' : '&' ∉ name)
    (hvalue : '&' ∉ value) :
    pairs (name ++ '=' :: value) = [(String.ofList name, String.ofList value)] := by
  have hwhole : (name ++ '=' :: value).splitOn '&' = [name ++ '=' :: value] := by
    refine List.splitOnP_eq_singleton fun c hc ↦ ?_
    rw [beq_eq_false_iff_ne]
    rintro rfl
    simp [hname', hvalue] at hc
  have hbefore : ∀ c ∈ name, decide (c ≠ '=') = true := fun c hc ↦
    decide_eq_true fun hsame ↦ hname (hsame ▸ hc)
  rw [pairs, hwhole, List.filterMap_cons, List.filterMap_nil, if_pos (by simp),
    List.takeWhile_append_of_pos hbefore, List.dropWhile_append_of_pos hbefore]
  simp

/-! ## Lists and watches -/

/-- What is said in a request for a watch besides its path. -/
def watchQuery (version : String) : List (String × String) :=
  [("watch", "true"), ("timeoutSeconds", toString watchSeconds), ("allowWatchBookmarks", "true"),
    ("resourceVersion", formEncoded version)]

/-- What is said before the version. -/
private def watchSettings : String := "&watch=true&timeoutSeconds=290&allowWatchBookmarks=true"

private theorem watchTarget_eq (path version : String) :
    path ++ "?&watch=true&timeoutSeconds=" ++ toString watchSeconds ++
        "&allowWatchBookmarks=true&resourceVersion=" ++ formEncoded version
      = path ++ "?" ++ (watchSettings ++ "&resourceVersion=" ++ formEncoded version) := by
  have hsettings : "?&watch=true&timeoutSeconds=" ++ toString watchSeconds ++
      "&allowWatchBookmarks=true&resourceVersion="
        = "?" ++ (watchSettings ++ "&resourceVersion=") := by decide
  have hwhole := congrArg (path ++ · ++ formEncoded version) hsettings
  simpa only [String.append_assoc] using hwhole

private theorem pairs_watch (version : String) :
    pairs (watchSettings ++ "&resourceVersion=" ++ formEncoded version).toList
      = watchQuery version := by
  have hinert : '&' ∉ (formEncoded version).toList :=
    fun h ↦ (isInert_of_mem_formEncoded h).2.1 rfl
  have hname : "&resourceVersion=".toList = '&' :: ("resourceVersion".toList ++ ['=']) := by decide
  have hfixed : pairs watchSettings.toList
      = [("watch", "true"), ("timeoutSeconds", "290"), ("allowWatchBookmarks", "true")] := by
    decide +kernel
  rw [String.toList_append, String.toList_append, hname, List.append_assoc, List.cons_append,
    List.append_assoc, List.singleton_append, pairs_append, hfixed,
    pairs_singleton (by decide) (by decide) hinert, String.ofList_toList, String.ofList_toList]
  rfl

variable {r : ApiResource} {namespaceName : Option String}

theorem ofList?_eq (hpath : IsPlain (r.path namespaceName)) :
    ofList? r namespaceName = if (r.path namespaceName).utf8ByteSize + 1 ≤ maxLength
      then some ⟨r.path namespaceName, []⟩ else none := by
  have hquery : ∀ c ∈ "".toList, isQueryChar c = true := by simp
  have htarget := ofTarget?_eq hpath hquery
  rw [String.append_empty, String.utf8ByteSize_append] at htarget
  exact htarget

theorem ofWatch?_eq (hpath : IsPlain (r.path namespaceName)) (version : String) :
    ofWatch? r namespaceName version =
      if (r.path namespaceName).utf8ByteSize + (formEncoded version).utf8ByteSize + 73 ≤ maxLength
        then some ⟨r.path namespaceName, watchQuery version⟩ else none := by
  have hfixed : (watchSettings ++ "&resourceVersion=").toList.all isQueryChar = true := by decide
  have hquery : ∀ c ∈ (watchSettings ++ "&resourceVersion=" ++ formEncoded version).toList,
      isQueryChar c = true := by
    intro c hc
    rw [String.toList_append, List.mem_append] at hc
    rcases hc with hc | hc
    · exact List.all_eq_true.mp hfixed c hc
    · exact (isInert_of_mem_formEncoded hc).1
  have hsize : (r.path namespaceName ++ "?" ++
      (watchSettings ++ "&resourceVersion=" ++ formEncoded version)).utf8ByteSize
      = (r.path namespaceName).utf8ByteSize + (formEncoded version).utf8ByteSize + 73 := by
    have hmark : "?".utf8ByteSize = 1 := by decide
    have hsettings : (watchSettings ++ "&resourceVersion=").utf8ByteSize = 72 := by decide
    rw [String.utf8ByteSize_append, String.utf8ByteSize_append, String.utf8ByteSize_append, hmark,
      hsettings]
    omega
  rw [ofWatch?, watchTarget_eq, ofTarget?_eq hpath hquery, hsize, pairs_watch]

end Request

open Request (IsPlain)

/-- What goes out for what is asked. -/
def Ask.sent (path : String) : Ask → Request
  | .list => ⟨path, []⟩
  | .watch version => ⟨path, Request.watchQuery version⟩

theorem Ask.eq_sent {r : ApiResource} {namespaceName : Option String} {ask : Ask}
    {request : Request} (hpath : IsPlain (r.path namespaceName))
    (h : ask.request? r namespaceName = some request) :
    request = ask.sent (r.path namespaceName) := by
  cases ask with
  | list =>
    rw [Ask.request?, Request.ofList?_eq hpath, Option.ite_none_right_eq_some] at h
    exact (Option.some.inj h.2).symm
  | watch version =>
    rw [Ask.request?, Request.ofWatch?_eq hpath, Option.ite_none_right_eq_some] at h
    exact (Option.some.inj h.2).symm

/-- A request for a watch carries the version that it was made for. -/
theorem Ask.version_sent (path version : String) :
    (((Ask.watch version).sent path).query.lookup "resourceVersion").bind Request.formDecoded?
      = some version := by
  have hlookup : ((Ask.watch version).sent path).query.lookup "resourceVersion"
      = some (Request.formEncoded version) := rfl
  rw [hlookup, Option.bind_some, Request.formDecoded?_formEncoded]

/-! ## The kinds that are followed -/

/-- The name of the namespace, if there is one, can stand in a path. -/
def Config.HasPlainNamespace (c : Config) : Prop :=
  ∀ name, c.namespaceName = some name → IsPlain name

/-- The version that is asked for. -/
def Ask.version : Ask → String
  | .list => ""
  | .watch version => version

/-- What is asked is short enough to be sent, together with the namespace. -/
def Config.HasRoomFor (c : Config) (ask : Ask) : Prop :=
  (c.namespaceName.getD "").utf8ByteSize + 3 * ask.version.utf8ByteSize ≤ 65000

instance (c : Config) (ask : Ask) : Decidable (c.HasRoomFor ask) :=
  inferInstanceAs (Decidable (_ ≤ _))

theorem ApiResource.isPlain_path {r : ApiResource} {namespaceName : Option String}
    (hversion : IsPlain r.apiVersion) (hplural : IsPlain r.plural)
    (hname : ∀ name, namespaceName = some name → IsPlain name) :
    IsPlain (r.path namespaceName) := by
  have hroot : IsPlain (if r.group = "" then "/api/" else "/apis/") := by
    split <;> decide
  have hseparator : IsPlain "/" := by decide
  refine .append (.append (.append (hroot.append hversion) hseparator) ?_) hplural
  cases namespaceName with
  | none => decide
  | some name =>
    have hnamespaces : IsPlain "namespaces/" := by decide
    exact (hnamespaces.append (hname name rfl)).append hseparator

theorem Config.HasPlainNamespace.isPlain_path {config : Config} (h : config.HasPlainNamespace)
    (k : Kind) : IsPlain (k.rules.resource.path config.namespaceName) :=
  ApiResource.isPlain_path (by cases k <;> decide) (by cases k <;> decide) h

private theorem utf8ByteSize_path_le (k : Kind) (namespaceName : Option String) :
    (k.rules.resource.path namespaceName).utf8ByteSize
      ≤ (namespaceName.getD "").utf8ByteSize + 60 := by
  have hfixed : (if k.rules.resource.group = "" then "/api/" else "/apis/").utf8ByteSize +
      k.rules.resource.apiVersion.utf8ByteSize + "/".utf8ByteSize +
      k.rules.resource.plural.utf8ByteSize ≤ 48 := by
    cases k <;> decide
  rw [ApiResource.path.eq_def]
  cases namespaceName with
  | none =>
    have hnone : "".utf8ByteSize = 0 := rfl
    simp only [String.utf8ByteSize_append, Option.getD_none]
    omega
  | some name =>
    have hnamespaces : "namespaces/".utf8ByteSize = 11 := by decide
    have hseparator : "/".utf8ByteSize = 1 := by decide
    simp only [String.utf8ByteSize_append, Option.getD_some]
    omega

/-- Whatever there is room for can be asked. -/
theorem Kind.request?_eq (k : Kind) {config : Config} (hplain : config.HasPlainNamespace)
    {ask : Ask} (hroom : config.HasRoomFor ask) :
    ask.request? k.rules.resource config.namespaceName
      = some (ask.sent (k.rules.resource.path config.namespaceName)) := by
  have hpath := hplain.isPlain_path k
  have hsize := utf8ByteSize_path_le k config.namespaceName
  rw [Config.HasRoomFor] at hroom
  cases ask with
  | list =>
    rw [Ask.request?, Request.ofList?_eq hpath, if_pos]
    · rfl
    · rw [Request.maxLength]
      omega
  | watch version =>
    have hencoded := Request.utf8ByteSize_formEncoded_le version
    rw [Ask.version] at hroom
    rw [Ask.request?, Request.ofWatch?_eq hpath, if_pos]
    · rfl
    · rw [Request.maxLength]
      omega

end EndpointSync
