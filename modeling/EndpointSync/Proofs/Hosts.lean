import EndpointSync.Proofs.Mappings
import EndpointSync.Rules.OfKind

/-!
# The host of a URL and the host that is looked up

An endpoint of a route or an ingress is monitored at a URL or, if it is guarded, by looking a name
up. Both come from the same host. The name that is looked up is the host as it is. The URL is the
host with a scheme in front of it, unless the host is taken for a URL itself, and then it is the
host as it is, too.

Kinds differ in what they take for a URL. An ingress asks for a whole scheme, so that all its URLs
have one. A route is content with the first four letters of it, which a host may well have without
being a URL. An ingress route always puts a scheme in front.
-/

namespace EndpointSync

open Yaml (Mapping Tree)

/-! ## How a text begins -/

/-- The text begins with one of these. -/
def OpensWith (openings : List String) (text : String) : Prop :=
  ∃ opening ∈ openings, ∃ rest, text = opening ++ rest

def webSchemes : List String := ["http://", "https://"]

theorem startsWith_iff_exists_append {text opening : String} :
    text.startsWith opening = true ↔ ∃ rest, text = opening ++ rest := by
  rw [String.startsWith_string_iff]
  constructor
  · rintro ⟨cs, hcs⟩
    refine ⟨String.ofList cs, ?_⟩
    rw [← String.toList_inj, String.toList_append, String.toList_ofList, hcs]
  · rintro ⟨rest, rfl⟩
    rw [String.toList_append]
    exact List.prefix_append _ _

theorem opensWith_iff_any {openings : List String} {text : String} :
    OpensWith openings text ↔ openings.any (text.startsWith ·) = true := by
  simp only [OpensWith, List.any_eq_true, startsWith_iff_exists_append]

private theorem opensWith_iff {openings : List String} {text : String} :
    OpensWith openings text ↔ ∃ opening ∈ openings, opening.toList <+: text.toList := by
  simp only [OpensWith, ← startsWith_iff_exists_append, String.startsWith_string_iff]

instance (openings : List String) (text : String) : Decidable (OpensWith openings text) :=
  decidable_of_iff _ opensWith_iff.symm

private theorem opensWith_append {openings : List String} {opening : String}
    (h : opening ∈ openings)
    (rest : String) : OpensWith openings (opening ++ rest) := ⟨opening, h, rest, rfl⟩

private theorem ne_webScheme_append {scheme : String} (h : scheme ∈ webSchemes) (host : String) :
    host ≠ scheme ++ host := by
  have hschemes : ∀ scheme ∈ webSchemes, scheme.length ≠ 0 := by decide
  intro heq
  have hlength := congrArg String.length heq
  rw [String.length_append] at hlength
  exact hschemes scheme h (by omega)

/-! ## The hosts of each kind -/

/-- The host whose name is looked up for an object, if there is one. -/
def Rules.host? {κ : Type} (r : Rules κ) (obj : κ) : Option String := r.guardedHost.bind (· obj)

/-- What a host begins with that is taken for a URL. -/
def Kind.urlOpenings : Kind → List String
  | .httpRoute => ["http"]
  | .ingress => webSchemes
  | .service => []
  | .ingressRoute => []

/-- The URL is the host as it is, if the host is taken for a URL, and else the host with a scheme in
front. -/
def Kind.Addresses (k : Kind) (url host : String) : Prop :=
  if OpensWith k.urlOpenings host then url = host else ∃ scheme ∈ webSchemes, url = scheme ++ host

theorem Kind.addresses_of_eq {k : Kind} {url host : String} (scheme : String)
    (h : (if k.urlOpenings.any (host.startsWith ·) then host else scheme ++ host) = url)
    (hscheme : scheme ∈ webSchemes) : k.Addresses url host := by
  rw [Addresses]
  split at h
  next htaken => rw [if_pos (opensWith_iff_any.mpr htaken), h]
  next htaken =>
    rw [if_neg ((not_congr opensWith_iff_any).mpr htaken)]
    exact ⟨scheme, hscheme, h.symm⟩

namespace Rules

theorem url_of_url? {κ : Type} {r : Rules κ} {obj : κ} {url : String} {f : κ → String}
    (hurl : r.url = some f) (h : r.url? obj = some url) : f obj = url ∧ url ≠ "" := by
  rw [url?, hurl, Option.filter_eq_some_iff] at h
  exact ⟨Option.some.inj h.1, of_decide_eq_true h.2⟩

variable {url : String}

theorem HttpRoute.addresses {obj : Cluster.HttpRoute} (h : rules.url? obj = some url) :
    ∃ host, rules.host? obj = some host ∧ Kind.Addresses .httpRoute url host := by
  obtain ⟨hurl, hne⟩ := url_of_url? rfl h
  rw [HttpRoute.url] at hurl
  split at hurl
  next host hhost =>
    refine ⟨host, congrArg (fun found : Option String ↦ some (found.getD "")) hhost, ?_⟩
    refine Kind.addresses_of_eq "https://" ?_ (by decide)
    rwa [Kind.urlOpenings, List.any_cons, List.any_nil, Bool.or_false]
  next => exact absurd hurl.symm hne

theorem Ingress.addresses {obj : Cluster.Ingress} (h : rules.url? obj = some url) :
    ∃ host, rules.host? obj = some host ∧ Kind.Addresses .ingress url host := by
  obtain ⟨hurl, hne⟩ := url_of_url? rfl h
  rw [Ingress.url] at hurl
  cases hhost : obj.firstHost? with
  | none =>
    rw [hhost] at hurl
    exact absurd hurl.symm hne
  | some host =>
    rw [hhost, Option.map_some, Option.getD_some, urlOf] at hurl
    refine ⟨host, congrArg (fun found : Option String ↦ some (found.getD "")) hhost, ?_⟩
    refine Kind.addresses_of_eq (if host ∈ obj.tlsHosts then "https://" else "http://") ?_ ?_
    · rw [Kind.urlOpenings, webSchemes, List.any_cons, List.any_cons, List.any_nil, Bool.or_false,
        ← hurl]
      split
      · rfl
      · split <;> rfl
    · split <;> decide

theorem IngressRoute.addresses {obj : Cluster.Object} (h : rules.url? obj = some url) :
    ∃ host, rules.host? obj = some host ∧ Kind.Addresses .ingressRoute url host := by
  obtain ⟨hurl, hne⟩ := url_of_url? rfl h
  rw [IngressRoute.url] at hurl
  split at hurl
  next host hhost =>
    refine ⟨host, hhost, ?_⟩
    refine Kind.addresses_of_eq
      ((if Cluster.IngressRoute.isEncrypted obj then "https" else "http") ++ "://") hurl ?_
    split <;> decide
  next => exact absurd hurl.symm hne

end Rules

/-- The URL of an object and the name that is looked up for it come from one host. -/
theorem Kind.addresses {k : Kind} (hk : k ≠ .service) {obj : k.Form} {url : String}
    (h : k.rules.url? obj = some url) : ∃ host, k.rules.host? obj = some host ∧
      k.Addresses url host := by
  cases k with
  | httpRoute => exact Rules.HttpRoute.addresses h
  | ingress => exact Rules.Ingress.addresses h
  | service => exact absurd rfl hk
  | ingressRoute => exact Rules.IngressRoute.addresses h

theorem Rules.assignCheck_of_host? {κ : Type} {r : Rules κ} {obj : κ} {host : String}
    (h : r.host? obj = some host) {e : Endpoint} (he : e.guarded = true) :
    r.assignCheck obj e = e.probeName host := by
  obtain ⟨f, hf, hhost⟩ := Option.bind_eq_some_iff.mp h
  rw [assignCheck, hf]
  dsimp only
  rw [if_pos he, hhost]

theorem Rules.get?_dns_assignCheck {κ : Type} {r : Rules κ} {obj : κ} {host : String}
    (h : r.host? obj = some host) {e : Endpoint} (he : e.guarded = true) :
    Mapping.get? (r.assignCheck obj e).dns (.str "query-name") = some (.str host) := by
  rw [assignCheck_of_host? h he]
  dsimp only [Endpoint.probeName]
  rw [Mapping.get?_insert_str, if_neg (by decide), Mapping.get?_insert_str,
    if_pos (Tree.same_refl _)]

/-- **The URL of an object and the name that is looked up for it.** For every route, ingress or
ingress route that has a URL there is one host, which all guarded endpoints of the object look up.
The URL is this host with a scheme in front if and only if the host is not taken for a URL. If it
is, then the URL is the host as it is, and has a scheme only if the host has one. -/
theorem Kind.url_and_host {k : Kind} (hk : k ≠ .service) {obj : k.Form} {url : String}
    (h : k.rules.url? obj = some url) :
    ∃ host, k.rules.host? obj = some host ∧
      (∀ e : Endpoint, e.guarded = true →
        Mapping.get? (k.rules.assignCheck obj e).dns (.str "query-name") = some (.str host)) ∧
      ((∃ scheme ∈ webSchemes, url = scheme ++ host) ↔ ¬OpensWith k.urlOpenings host) ∧
      (OpensWith k.urlOpenings host → url = host) ∧
      (OpensWith webSchemes url ↔
        (OpensWith k.urlOpenings host → OpensWith webSchemes host)) := by
  obtain ⟨host, hhost, haddress⟩ := addresses hk h
  refine ⟨host, hhost, fun e he ↦ Rules.get?_dns_assignCheck hhost he, ?_⟩
  rw [Addresses] at haddress
  split at haddress
  next htaken =>
    subst haddress
    have hbare : ¬∃ scheme ∈ webSchemes, url = scheme ++ url := by
      rintro ⟨scheme, hscheme, heq⟩
      exact ne_webScheme_append hscheme _ heq
    exact ⟨iff_of_false hbare (not_not_intro htaken), fun _ ↦ rfl, (imp_iff_right htaken).symm⟩
  next htaken =>
    refine ⟨iff_of_true haddress htaken, fun hout ↦ absurd hout htaken, ?_⟩
    obtain ⟨scheme, hscheme, rfl⟩ := haddress
    exact iff_of_true (opensWith_append hscheme host) fun hout ↦ absurd hout htaken

def routeTo (host : String) : Kind.httpRoute.Form :=
  ({ hostnames := some [host] } : Cluster.HttpRoute)

/-- A host that is taken for a URL need not be one, and one that is a URL is no name to look up. -/
theorem routes_to_http_hosts :
    Kind.httpRoute.rules.url? (routeTo "httpbin.example.com") = some "httpbin.example.com" ∧
      ¬OpensWith webSchemes "httpbin.example.com" ∧
      Kind.httpRoute.rules.url? (routeTo "http://api.example.com")
        = some ("http://" ++ "api.example.com") ∧
      ∀ e : Endpoint, e.guarded = true →
        Mapping.get? (Kind.httpRoute.rules.assignCheck (routeTo "http://api.example.com") e).dns
          (.str "query-name") = some (.str "http://api.example.com") := by
  have hbin : Kind.httpRoute.rules.url? (routeTo "httpbin.example.com")
      = some "httpbin.example.com" := by decide +kernel
  have hapi : Kind.httpRoute.rules.url? (routeTo "http://api.example.com")
      = some "http://api.example.com" := by decide +kernel
  obtain ⟨bin, hhost, -, -, -, hscheme⟩ := Kind.url_and_host (by decide) hbin
  obtain ⟨api, hhost', hlookup, -⟩ := Kind.url_and_host (by decide) hapi
  have hbinHost : "httpbin.example.com" = bin := Option.some.inj hhost
  have hapiHost : "http://api.example.com" = api := Option.some.inj hhost'
  refine ⟨hbin, ?_, hapi, fun e he ↦ ?_⟩
  · rw [hscheme, ← hbinHost]
    decide
  · rw [hlookup e he, hapiHost]

end EndpointSync
