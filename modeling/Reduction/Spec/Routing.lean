import Reduction.ForStd.List
import Reduction.Native.ConfigReload
import Reduction.Spec.ConfigValidate

/-!
# Routing by the longest prefix

The router tries its routes in order of their prefixes' lengths and takes the
first that matches.  Two prefixes of one path that have the same length are equal,
and a validated configuration has no two routes with equal prefixes; so the first
match is the only longest one, in whatever order the routes are configured.
-/

namespace Reduction

/-- A path belongs to a prefix: it is the prefix, or goes on behind it at a boundary. -/
def ServesPath (p path : Bytes) : Prop :=
  p <+: path ∧ (path = p ∨ p.getLast? = some 47 ∨ path[p.length]? = some 47)

namespace Router

variable {routes : List RouteConfig} {path : Bytes} {route : RouteConfig}

theorem matchesRoute_iff :
    matchesRoute path route = true ↔ ServesPath route.pathPrefix.bytes path := by
  simp only [matchesRoute, ServesPath, Bool.and_eq_true, List.isPrefixOf_iff_prefix,
    Bool.or_eq_true, beq_iff_eq, or_assoc]
  refine and_congr_right fun hstart => ?_
  have hwhole : path.length = route.pathPrefix.bytes.length ↔ path = route.pathPrefix.bytes := by
    constructor
    · intro hlength
      exact (hstart.eq_of_length hlength.symm).symm
    · intro h
      rw [h]
  rw [hwhole]

/-- A path that starts with the prefix and is not the prefix is longer, so the index is in
    bounds. -/
theorem matchesRoute?_eq (path : Bytes) (route : RouteConfig) :
    matchesRoute? path route = some (matchesRoute path route) := by
  simp only [matchesRoute?, matchesRoute]
  cases hstart : route.pathPrefix.bytes.isPrefixOf path with
  | false => rfl
  | true =>
    rw [if_pos rfl, Bool.true_and]
    cases hshort : (path.length == route.pathPrefix.bytes.length ||
        route.pathPrefix.bytes.getLast? == some 47) with
    | true => simp
    | false =>
      rw [Bool.or_eq_false_iff, beq_eq_false_iff_ne] at hshort
      have hle := (List.isPrefixOf_iff_prefix.mp hstart).length_le
      have hlt : route.pathPrefix.bytes.length < path.length := by omega
      simp [List.getElem?_eq_getElem hlt]

theorem matchRoute?_eq (path : Bytes) (routes : List RouteConfig) :
    matchRoute? path routes = some (matchRoute ⟨routes⟩ path) := by
  induction routes with
  | nil => rfl
  | cons route rest ih =>
    rw [matchRoute?, matchesRoute?_eq, matchRoute, List.find?_cons]
    cases matchesRoute path route with
    | true => rfl
    | false => exact ih

theorem mem_new : route ∈ (new routes).routes ↔ route ∈ routes := List.mem_mergeSort

/-- Longer prefixes come first. -/
theorem pairwise_new : (new routes).routes.Pairwise fun a b =>
    b.pathPrefix.bytes.length ≤ a.pathPrefix.bytes.length := by
  have hsorted := @List.pairwise_mergeSort RouteConfig
    (fun a b => decide (b.pathPrefix.bytes.length ≤ a.pathPrefix.bytes.length))
    (fun a b c hab hbc => by simp only [decide_eq_true_eq] at *; omega)
    (fun a b => by simp only [Bool.or_eq_true, decide_eq_true_eq]; omega) routes
  exact hsorted.imp fun h => of_decide_eq_true h

/-- Two routes that serve a path with prefixes of one length are the same. -/
theorem eq_of_serves (hnodup : (routes.map RouteConfig.pathPrefix).Nodup) {a b : RouteConfig}
    (ha : a ∈ routes) (hb : b ∈ routes) (hservesA : ServesPath a.pathPrefix.bytes path)
    (hservesB : ServesPath b.pathPrefix.bytes path)
    (hlength : a.pathPrefix.bytes.length = b.pathPrefix.bytes.length) : a = b := by
  have hbytes : a.pathPrefix.bytes = b.pathPrefix.bytes :=
    (List.prefix_of_prefix_length_le hservesA.1 hservesB.1 hlength.le).eq_of_length hlength
  exact List.inj_on_of_nodup_map hnodup ha hb (ArrayString.bytes_injective hbytes)

theorem find?_new_iff (hnodup : (routes.map RouteConfig.pathPrefix).Nodup) :
    (new routes).routes.find? (matchesRoute path) = some route ↔
      route ∈ routes ∧ ServesPath route.pathPrefix.bytes path ∧
        ∀ other ∈ routes, ServesPath other.pathPrefix.bytes path → other ≠ route →
          other.pathPrefix.bytes.length < route.pathPrefix.bytes.length := by
  rw [List.find?_eq_some_iff_greatest pairwise_new]
  · simp only [mem_new, matchesRoute_iff]
  · intro a ha b hb hservesA hservesB hlength
    rw [mem_new] at ha hb
    rw [matchesRoute_iff] at hservesA hservesB
    exact eq_of_serves hnodup ha hb hservesA hservesB hlength

end Router

/-- What the router of a list of routes does with every path. -/
structure RoutesByLongestPrefix (routes : List RouteConfig) : Prop where
  /-- No path is indexed out of bounds. -/
  in_bounds : ∀ path,
    Router.matchRoute? path (Router.new routes).routes = some ((Router.new routes).matchRoute path)
  /-- The match is the route with the longest of the prefixes that the path belongs to. -/
  longest : ∀ path m, (Router.new routes).matchRoute path = some m ↔
    ∃ route ∈ routes, ServesPath route.pathPrefix.bytes path ∧
      (∀ other ∈ routes, ServesPath other.pathPrefix.bytes path → other ≠ route →
        other.pathPrefix.bytes.length < route.pathPrefix.bytes.length) ∧
      m = { backendId := route.backendId, timeoutSecs := route.timeoutSecs }
  /-- There is none only if the path belongs to no prefix. -/
  unmatched : ∀ path, (Router.new routes).matchRoute path = none ↔
    ∀ route ∈ routes, ¬ ServesPath route.pathPrefix.bytes path
  /-- The order of the routes does not matter. -/
  unordered : ∀ routes', routes'.Perm routes → ∀ path,
    (Router.new routes').matchRoute path = (Router.new routes).matchRoute path

theorem longest_route_matches {c : ReductionConfig} (hvalid : c.validate = .ok ()) :
    RoutesByLongestPrefix c.routes := by
  have hnodup := ReductionConfig.prefixes_nodup hvalid
  refine ⟨fun path => Router.matchRoute?_eq path _, fun path m => ?_, fun path => ?_,
    fun routes' hperm path => ?_⟩
  · rw [Router.matchRoute, Option.map_eq_some_iff]
    constructor
    · rintro ⟨route, hfind, rfl⟩
      obtain ⟨hmem, hserves, hbest⟩ := (Router.find?_new_iff hnodup).mp hfind
      exact ⟨route, hmem, hserves, hbest, rfl⟩
    · rintro ⟨route, hmem, hserves, hbest, rfl⟩
      exact ⟨route, (Router.find?_new_iff hnodup).mpr ⟨hmem, hserves, hbest⟩, rfl⟩
  · rw [Router.matchRoute, Option.map_eq_none_iff, List.find?_eq_none]
    simp only [Router.mem_new, Router.matchesRoute_iff]
  · -- both searches find the one longest match
    have hnodup' : (routes'.map RouteConfig.pathPrefix).Nodup :=
      (hperm.map RouteConfig.pathPrefix).nodup_iff.mpr hnodup
    have hfind : (Router.new routes').routes.find? (Router.matchesRoute path) =
        (Router.new c.routes).routes.find? (Router.matchesRoute path) := by
      ext route
      rw [Router.find?_new_iff hnodup', Router.find?_new_iff hnodup]
      simp only [hperm.mem_iff]
    rw [Router.matchRoute, Router.matchRoute, hfind]

namespace Sample

/-- A route below the one for every path. -/
def apiRoute : RouteConfig :=
  { pathPrefix := ⟨Bytes.ascii "/api", by decide⟩, backendId := web, timeoutSecs := some 5 }

end Sample

theorem api_longest_route_matches :
    (Sample.config [Sample.b1] [Sample.routeTo Sample.web, Sample.apiRoute] (by decide)).validate =
        .ok () ∧
      RoutesByLongestPrefix [Sample.routeTo Sample.web, Sample.apiRoute] :=
  ⟨rfl, @longest_route_matches
    (Sample.config [Sample.b1] [Sample.routeTo Sample.web, Sample.apiRoute] (by decide)) rfl⟩

end Reduction
