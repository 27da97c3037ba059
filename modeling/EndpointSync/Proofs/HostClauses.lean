import EndpointSync.Proofs.Hosts
import Mathlib.Data.List.TakeWhile

/-!
# The host of an ingress route

The rules of an ingress route are read for one thing only: a clause `Host` with a literal name in
backticks. Everything else in a rule is text between such clauses, and a clause that is not
complete, or whose name is empty, is such text as well. So it is said first where a clause stands in
a text (`HasClauseAt`) and when it is the first one (`IsFirstClause`), and then that this is what
the search finds. The search tries every place of the text in turn, so a place where a clause only
begins costs nothing.

The same goes for the list of rules. The host comes from the first rule that has a clause, whatever
stands before it: rules of other clauses, elements without a rule, or values of any other type.
-/

namespace EndpointSync

open Cluster (Object)

namespace Cluster.IngressRoute

/-! ## Clauses in a text -/

/-- The clause that matches a host. -/
def clause (host : List Char) : List Char := hostOpening ++ (host ++ ['\x60', ')'])

/-- Behind `before`, the text has a clause for a host. Its name is not empty and ends at the first
backtick. -/
def HasClauseAt (text before host : List Char) : Prop :=
  host ≠ [] ∧ '\x60' ∉ host ∧ ∃ after, text = before ++ (clause host ++ after)

/-- The text has a clause somewhere. -/
def HasClause (text : List Char) : Prop := ∃ before host, HasClauseAt text before host

/-- The clause behind `before` is the first one of the text. -/
def IsFirstClause (text before host : List Char) : Prop :=
  HasClauseAt text before host ∧
    ∀ before' host', HasClauseAt text before' host' → before.length ≤ before'.length

variable {text before before' host host' : List Char} {c : Char}

theorem not_hasClauseAt_nil : ¬HasClauseAt [] before host := by
  rintro ⟨-, -, after, htext⟩
  have hclause := (List.append_eq_nil_iff.mp (List.append_eq_nil_iff.mp htext.symm).2).1
  exact absurd hclause (by simp [clause, hostOpening])

theorem hasClauseAt_cons_cons {c' : Char} :
    HasClauseAt (c :: text) (c' :: before) host ↔ c' = c ∧ HasClauseAt text before host := by
  constructor
  · rintro ⟨hne, hname, after, htext⟩
    obtain ⟨hc, hrest⟩ := List.cons.inj htext
    exact ⟨hc.symm, hne, hname, after, hrest⟩
  · rintro ⟨rfl, hne, hname, after, rfl⟩
    exact ⟨hne, hname, after, rfl⟩

private theorem takeWhile_append_of_not_mem (h : '\x60' ∉ host) (rest : List Char) :
    (host ++ '\x60' :: rest).takeWhile (· ≠ '\x60') = host := by
  rw [List.takeWhile_append_of_pos]
  · simp
  · intro c hc
    exact decide_eq_true fun heq ↦ h (heq ▸ hc)

theorem hostHere?_eq_some_iff : hostHere? text = some host ↔ HasClauseAt text [] host := by
  constructor
  · intro h
    rw [hostHere?] at h
    split at h
    next hopening =>
      obtain ⟨rest, rfl⟩ := List.isPrefixOf_iff_prefix.mp hopening
      rw [List.drop_left] at h
      dsimp only at h
      split at h
      · exact absurd h (by simp)
      next hne =>
        split at h
        next hclosing =>
          obtain rfl := Option.some.inj h
          have hname : '\x60' ∉ rest.takeWhile (· ≠ '\x60') := by
            intro hmem
            exact absurd (List.mem_takeWhile_imp hmem) (by simp)
          obtain ⟨tail, htail⟩ := List.takeWhile_prefix (· ≠ '\x60') (l := rest)
          -- what follows the name are the two closing characters
          have hdrop : rest.drop (rest.takeWhile (· ≠ '\x60')).length = tail :=
            (congrArg (List.drop _) htail.symm).trans List.drop_left
          rw [hdrop] at hclosing
          refine ⟨mt List.isEmpty_iff.mpr hne, hname, tail.drop 2, ?_⟩
          rw [List.nil_append, clause, List.append_assoc, List.append_assoc, ← hclosing,
            List.take_append_drop, htail]
        · exact absurd h (by simp)
    · exact absurd h (by simp)
  · rintro ⟨hne, hname, after, rfl⟩
    have hname' : (host ++ '\x60' :: (')' :: after)).takeWhile (· ≠ '\x60') = host :=
      takeWhile_append_of_not_mem hname _
    have hopening : hostOpening.isPrefixOf ([] ++ (clause host ++ after)) = true := by
      rw [List.isPrefixOf_iff_prefix, List.nil_append, clause, List.append_assoc]
      exact List.prefix_append _ _
    have hdrop : ([] ++ (clause host ++ after)).drop hostOpening.length
        = host ++ '\x60' :: (')' :: after) := by
      rw [List.nil_append, clause, List.append_assoc, List.drop_left, List.append_assoc]
      rfl
    rw [hostHere?, if_pos hopening, hdrop]
    dsimp only
    rw [hname', if_neg (mt List.isEmpty_iff.mp hne), List.drop_left]
    rfl

/-- **The search finds the first clause.** -/
theorem hostOfRule?_eq_some_iff :
    hostOfRule? text = some host ↔ ∃ before, IsFirstClause text before host := by
  induction text with
  | nil =>
    refine iff_of_false (by simp [hostOfRule?]) ?_
    rintro ⟨before, hhere, -⟩
    exact not_hasClauseAt_nil hhere
  | cons c rest ih =>
    rw [hostOfRule?]
    cases hhere : hostHere? (c :: rest) with
    | some found =>
      have hfound := hostHere?_eq_some_iff.mp hhere
      rw [Option.some_or, Option.some.injEq]
      constructor
      · rintro rfl
        exact ⟨[], hfound, fun _ _ _ ↦ Nat.zero_le _⟩
      · rintro ⟨before, hclause, hfirst⟩
        -- nothing comes before the start, and one clause starts there
        obtain rfl := List.length_eq_zero_iff.mp (Nat.le_zero.mp (hfirst [] found hfound))
        exact Option.some.inj (hhere.symm.trans (hostHere?_eq_some_iff.mpr hclause))
    | none =>
      have hnone : ∀ host, ¬HasClauseAt (c :: rest) [] host := by
        intro host hclause
        exact absurd (hhere.symm.trans (hostHere?_eq_some_iff.mpr hclause)) (by simp)
      rw [Option.none_or, ih]
      constructor
      · rintro ⟨before, hclause, hfirst⟩
        refine ⟨c :: before, hasClauseAt_cons_cons.mpr ⟨rfl, hclause⟩, ?_⟩
        intro before' host' hclause'
        cases before' with
        | nil => exact absurd hclause' (hnone host')
        | cons c' before' =>
          exact Nat.succ_le_succ (hfirst before' host' (hasClauseAt_cons_cons.mp hclause').2)
      · rintro ⟨before, hclause, hfirst⟩
        cases before with
        | nil => exact absurd hclause (hnone host)
        | cons c' before =>
          obtain ⟨rfl, hrest⟩ := hasClauseAt_cons_cons.mp hclause
          refine ⟨before, hrest, ?_⟩
          intro before' host' hclause'
          have hlater := hfirst (c' :: before') host' (hasClauseAt_cons_cons.mpr ⟨rfl, hclause'⟩)
          exact Nat.le_of_succ_le_succ hlater

/-- A clause that was begun before is no obstacle. -/
example : hostOfRule? "Host(`Host(`a.example`)".toList = some "a.example".toList := by decide

private theorem isSome_hostOfRule? (h : HasClauseAt text before host) :
    (hostOfRule? text).isSome = true := by
  induction text generalizing before with
  | nil => exact absurd h not_hasClauseAt_nil
  | cons c rest ih =>
    rw [hostOfRule?, Option.isSome_or, Bool.or_eq_true]
    cases before with
    | nil => exact .inl (Option.isSome_iff_exists.mpr ⟨host, hostHere?_eq_some_iff.mpr h⟩)
    | cons c' before => exact .inr (ih (hasClauseAt_cons_cons.mp h).2)

private theorem hostOfRule?_eq_none_iff : hostOfRule? text = none ↔ ¬HasClause text := by
  constructor
  · rintro hnone ⟨before, host, hclause⟩
    have hsome := isSome_hostOfRule? hclause
    rw [hnone] at hsome
    exact absurd hsome (by simp)
  · intro hnone
    rw [Option.eq_none_iff_forall_ne_some]
    intro host hfound
    obtain ⟨before, hclause, -⟩ := hostOfRule?_eq_some_iff.mp hfound
    exact hnone ⟨before, host, hclause⟩

/-! ## Rules in an object -/

/-- The specification of the object lists these routes. -/
def Lists (o : Object) (routes : List Json) : Prop :=
  ∃ spec, o.data.field? "spec" = some spec ∧ spec.field? "routes" = some (.arr routes)

/-- The route has a rule. -/
def Matches (route : Json) (rule : String) : Prop := route.field? "match" = some (.str rule)

/-- The specification of the object has settings for encryption, if only an empty object. -/
def Encrypts (o : Object) : Prop :=
  ∃ spec settings, o.data.field? "spec" = some spec ∧ spec.field? "tls" = some (.obj settings)

/-- The route has a rule with a clause. -/
def NamesHost (route : Json) : Prop := ∃ rule, Matches route rule ∧ HasClause rule.toList

/-- The host is that of the first clause in the first rule that has one. -/
def Selects (o : Object) (host : String) : Prop :=
  ∃ skipped route rest, Lists o (skipped ++ route :: rest) ∧ (∀ r ∈ skipped, ¬NamesHost r) ∧
    ∃ rule before, Matches route rule ∧ IsFirstClause rule.toList before host.toList

variable {o : Object} {route : Json} {routes : List Json} {name rule : String}

/-- What is not true of null is true of a field only if there is one. -/
theorem child_iff {P : Json → Prop} (hnull : ¬P .null) :
    P (child route name) ↔ ∃ found, route.field? name = some found ∧ P found := by
  rw [child]
  cases route.field? name with
  | none => simpa using hnull
  | some found => simp

theorem str?_child_eq_some_iff :
    (child route name).str? = some rule ↔ route.field? name = some (.str rule) := by
  rw [child_iff (P := fun value ↦ value.str? = some rule) nofun]
  simp only [Json.str?_eq_some_iff, exists_eq_right]

private theorem arr?_child_eq_some_iff :
    (child route name).arr? = some routes ↔ route.field? name = some (.arr routes) := by
  rw [child_iff (P := fun value ↦ value.arr? = some routes) nofun]
  simp only [Json.arr?_eq_some_iff, exists_eq_right]

private theorem isObj_child_iff :
    (child route name).isObj = true ↔ ∃ fields, route.field? name = some (.obj fields) := by
  rw [child_iff (P := fun value ↦ value.isObj = true) nofun]
  constructor
  · rintro ⟨found, hfound, hobj⟩
    obtain ⟨fields, rfl⟩ := Json.isObj_iff.mp hobj
    exact ⟨fields, hfound⟩
  · rintro ⟨fields, hfound⟩
    exact ⟨.obj fields, hfound, rfl⟩

/-- Fields of a field: a value without fields is as good as none. -/
theorem field?_child_eq_some_iff {name' : String} {value : Json} :
    (child route name).field? name' = some value ↔
      ∃ found, route.field? name = some found ∧ found.field? name' = some value :=
  child_iff (P := fun found ↦ found.field? name' = some value) nofun

theorem lists_iff : Lists o routes ↔ (child (child o.data "spec") "routes").arr? = some routes := by
  rw [arr?_child_eq_some_iff, field?_child_eq_some_iff]
  exact Iff.rfl

theorem isEncrypted_iff : isEncrypted o = true ↔ Encrypts o := by
  rw [isEncrypted, isObj_child_iff, Encrypts]
  simp only [field?_child_eq_some_iff]
  exact ⟨fun ⟨fields, spec, h⟩ ↦ ⟨spec, fields, h⟩, fun ⟨spec, fields, h⟩ ↦ ⟨fields, spec, h⟩⟩

/-- The host that the rule of a route matches. -/
def hostOf? (route : Json) : Option String :=
  (child route "match").str?.bind fun rule ↦ (hostOfRule? rule.toList).map String.ofList

theorem hostOf?_eq_some_iff {host : String} : hostOf? route = some host ↔
    ∃ rule before, Matches route rule ∧ IsFirstClause rule.toList before host.toList := by
  simp only [hostOf?, Option.bind_eq_some_iff, str?_child_eq_some_iff, Option.map_eq_some_iff,
    hostOfRule?_eq_some_iff]
  constructor
  · rintro ⟨rule, hrule, cs, ⟨before, hfirst⟩, rfl⟩
    refine ⟨rule, before, hrule, ?_⟩
    rwa [String.toList_ofList]
  · rintro ⟨rule, before, hrule, hfirst⟩
    exact ⟨rule, hrule, host.toList, ⟨before, hfirst⟩, String.ofList_toList⟩

theorem hostOf?_eq_none_iff : hostOf? route = none ↔ ¬NamesHost route := by
  simp only [hostOf?, Option.bind_eq_none_iff, str?_child_eq_some_iff, Option.map_eq_none_iff,
    hostOfRule?_eq_none_iff, NamesHost, not_exists, not_and]
  exact Iff.rfl

private theorem findSome?_filterMap {α β γ : Type} (f : α → Option β) (g : β → Option γ)
    (xs : List α) : (xs.filterMap f).findSome? g = xs.findSome? fun x ↦ (f x).bind g := by
  induction xs with
  | nil => rfl
  | cons x rest ih =>
    rw [List.findSome?_cons, ← ih]
    cases hx : f x with
    | none => rw [List.filterMap_cons_none hx, Option.bind_none]
    | some y => rw [List.filterMap_cons_some hx, List.findSome?_cons, Option.bind_some]

theorem firstHost?_eq (o : Object) : firstHost? o
    = (((child (child o.data "spec") "routes").arr?).getD []).findSome? hostOf? :=
  findSome?_filterMap _ _ _

/-- **The host that is found is the one of the first clause in the first rule that has one.** -/
theorem firstHost?_eq_some_iff {host : String} : firstHost? o = some host ↔ Selects o host := by
  rw [firstHost?_eq]
  constructor
  · intro h
    obtain ⟨skipped, route, rest, hroutes, hhost, hskipped⟩ := List.findSome?_eq_some_iff.mp h
    refine ⟨skipped, route, rest, ?_, ?_, hostOf?_eq_some_iff.mp hhost⟩
    · rw [lists_iff]
      cases hfound : (child (child o.data "spec") "routes").arr? with
      | none =>
        rw [hfound, Option.getD_none] at hroutes
        exact absurd hroutes (by simp)
      | some routes => rw [← hroutes, hfound, Option.getD_some]
    · intro r hr
      exact hostOf?_eq_none_iff.mp (hskipped r hr)
  · rintro ⟨skipped, route, rest, hlists, hskipped, hhost⟩
    rw [lists_iff.mp hlists, Option.getD_some, List.findSome?_eq_some_iff]
    refine ⟨skipped, route, rest, rfl, hostOf?_eq_some_iff.mpr hhost, ?_⟩
    intro r hr
    exact hostOf?_eq_none_iff.mpr (hskipped r hr)

theorem exists_selects_iff : (∃ host, Selects o host) ↔
    ∃ routes, Lists o routes ∧ ∃ route ∈ routes, NamesHost route := by
  constructor
  · rintro ⟨host, skipped, route, rest, hlists, -, rule, before, hrule, hclause, -⟩
    refine ⟨_, hlists, route, List.mem_append_right _ List.mem_cons_self, ?_⟩
    exact ⟨rule, hrule, before, host.toList, hclause⟩
  · rintro ⟨routes, hlists, route, hroute, hnames⟩
    cases hfirst : firstHost? o with
    | some host => exact ⟨host, firstHost?_eq_some_iff.mp hfirst⟩
    | none =>
      rw [firstHost?_eq, lists_iff.mp hlists, Option.getD_some,
        List.findSome?_eq_none_iff] at hfirst
      exact absurd hnames (hostOf?_eq_none_iff.mp (hfirst route hroute))

end Cluster.IngressRoute

namespace Rules.IngressRoute

open Cluster.IngressRoute (Encrypts Lists NamesHost Selects exists_selects_iff firstHost?
  firstHost?_eq_some_iff isEncrypted isEncrypted_iff)

variable {o : Object} {host : String}

theorem url_of_selects (h : Selects o host) :
    url o = if isEncrypted o then "https://" ++ host else "http://" ++ host := by
  rw [url, firstHost?_eq_some_iff.mpr h]
  dsimp only
  split
  · exact congrArg (· ++ host) (by decide : "https" ++ "://" = "https://")
  · exact congrArg (· ++ host) (by decide : "http" ++ "://" = "http://")

theorem url_of_not_selects (h : ¬∃ host, Selects o host) : url o = "" := by
  rw [url]
  cases hfirst : firstHost? o with
  | none => rfl
  | some host => exact absurd ⟨host, firstHost?_eq_some_iff.mp hfirst⟩ h

theorem url_ne_empty_iff : url o ≠ "" ↔ ∃ host, Selects o host := by
  constructor
  · intro hurl
    by_contra hnone
    exact hurl (url_of_not_selects hnone)
  · rintro ⟨host, hhost⟩ hempty
    rw [url_of_selects hhost] at hempty
    have hchars := congrArg String.toList hempty
    split at hchars
    · simp at hchars
    · simp at hchars

/-- The check of a guarded endpoint goes by the host that the URL goes by. -/
theorem assignCheck_of_guarded (o : Object) {e : Endpoint} (hguarded : e.guarded = true) :
    rules.assignCheck o e = ((firstHost? o).map e.probeName).getD e := by
  have hhost : rules.guardedHost = some firstHost? := rfl
  rw [assignCheck, hhost]
  dsimp only
  rw [if_pos hguarded]
  cases firstHost? o with
  | some host => rfl
  | none => rfl

private theorem assignCheck_of_selects (h : Selects o host) {e : Endpoint}
    (hguarded : e.guarded = true) : rules.assignCheck o e = e.probeName host := by
  rw [assignCheck_of_guarded o hguarded, firstHost?_eq_some_iff.mpr h, Option.map_some,
    Option.getD_some]

private theorem assignCheck_of_not_selects (h : ¬∃ host, Selects o host) {e : Endpoint}
    (hguarded : e.guarded = true) : rules.assignCheck o e = e := by
  rw [assignCheck_of_guarded o hguarded]
  cases hfirst : firstHost? o with
  | none => rw [Option.map_none, Option.getD_none]
  | some host => exact absurd ⟨host, firstHost?_eq_some_iff.mp hfirst⟩ h

/-- **An ingress route is monitored at the host of the first clause in the first rule that has
one.** It has a URL if any of its rules has a clause, whatever else its specification holds. Then
the host is the same for the URL and for the check of its name, and the scheme follows the settings
for encryption. Without a clause there is no URL, and a guarded endpoint stays as it is. -/
theorem url_selects_host (o : Object) :
    (url o ≠ "" ↔ ∃ routes, Lists o routes ∧ ∃ route ∈ routes, NamesHost route) ∧
    (∀ host, Selects o host → (∀ host', Selects o host' → host' = host) ∧
      (Encrypts o → url o = "https://" ++ host) ∧ (¬Encrypts o → url o = "http://" ++ host) ∧
      ∀ e : Endpoint, e.guarded = true → rules.assignCheck o e = e.probeName host) ∧
    ((¬∃ host, Selects o host) → url o = "" ∧
      ∀ e : Endpoint, e.guarded = true → rules.assignCheck o e = e) := by
  refine ⟨url_ne_empty_iff.trans exists_selects_iff, ?_, ?_⟩
  · intro host hhost
    have hurl := url_of_selects hhost
    refine ⟨?_, ?_, ?_, fun e he ↦ assignCheck_of_selects hhost he⟩
    · intro host' hhost'
      exact Option.some.inj ((firstHost?_eq_some_iff.mpr hhost').symm.trans
        (firstHost?_eq_some_iff.mpr hhost))
    · intro hencrypted
      rwa [if_pos (isEncrypted_iff.mpr hencrypted)] at hurl
    · intro hplain
      rwa [if_neg (mt isEncrypted_iff.mp hplain)] at hurl
  · intro hnone
    exact ⟨url_of_not_selects hnone, fun e he ↦ assignCheck_of_not_selects hnone he⟩

end Rules.IngressRoute

end EndpointSync
