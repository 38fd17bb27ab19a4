/-
Chains of resolvers that are put one behind the other.

A resolver sees the resolvers behind it as one rest, so what a chain answers follows from what they answer, by induction
over the resolvers in front.
- `asked_append_alike`: rests with the same two answers make no difference to resolvers that use nothing else, whatever
  these change on the way in and on the way out.
- `publicPath?_of_prefixes`: resolvers that put a segment in front of the answer add their segments in the order of the
  chain.
- `asked_silent`: resolvers that know nothing of their own answer nothing.
- `chain_composition`: so nothing behind a resolver that answers alone is ever asked, prefixes stand in front of its
  answer, and a chain needs one that answers.
-/
import ResourceServer.Proofs.Resource.Descent

namespace ResourceServer.Resource

open Files (FileTree)

variable {tree : FileTree} {chain pre back back' : Chain} {path : Text} {locations : List Text}

/-! ## What a resolver makes of the rest -/

/-- rests that give the same two answers; they may be of different length -/
structure Rest.Alike (a b : Rest) : Prop where
  resource : a.resource? = b.resource?
  publicPath : a.publicPath? = b.publicPath?

/-- a rest that answers nothing -/
structure Rest.Silent (rest : Rest) : Prop where
  resource : ∀ path locations, rest.resource? path locations = none
  publicPath : ∀ path locations, rest.publicPath? path locations = none

namespace Resolver

/-- what the resolver makes of a rest -/
def before (r : Resolver) (tree : FileTree) (rest : Rest) : Rest :=
  ⟨rest.length + 1, r.resource? tree rest, r.publicPath? tree rest⟩

/-- the resolver uses the rest through its two answers only -/
def AsksOnly (tree : FileTree) (r : Resolver) : Prop :=
  ∀ a b : Rest, a.Alike b → (r.before tree a).Alike (r.before tree b)

/-- the resolver answers without the rest -/
def AnswersAlone (tree : FileTree) (r : Resolver) : Prop := ∀ a b : Rest, (r.before tree a).Alike (r.before tree b)

/-- the resolver puts a segment and a slash in front of the public path that the rest answers -/
def Prefixes (tree : FileTree) (segment : Text) (r : Resolver) : Prop :=
  ∀ rest path locations,
    r.publicPath? tree rest path locations = (rest.publicPath? path locations).map fun answer => segment ++ '/' :: answer

/-- the resolver answers nothing where the rest answers nothing -/
def Delegates (tree : FileTree) (r : Resolver) : Prop := ∀ rest : Rest, rest.Silent → (r.before tree rest).Silent

end Resolver

/-! ## Chains -/

theorem asked_cons (tree : FileTree) (r : Resolver) (more : Chain) :
    Chain.asked tree (r :: more) = r.before tree (Chain.asked tree more) := by
  have hlength : (Chain.asked tree more).length = more.length := by cases more <;> rfl
  rw [Resolver.before, hlength]
  rfl

theorem asked_append_alike (hpre : ∀ r ∈ pre, r.AsksOnly tree)
    (h : (Chain.asked tree back).Alike (Chain.asked tree back')) :
    (Chain.asked tree (pre ++ back)).Alike (Chain.asked tree (pre ++ back')) := by
  induction pre with
  | nil => exact h
  | cons r pre ih =>
    rw [List.forall_mem_cons] at hpre
    rw [List.cons_append, List.cons_append, asked_cons, asked_cons]
    exact hpre.1 _ _ (ih hpre.2)

theorem publicPath?_of_prefixes {segments : List Text} (h : List.Forall₂ (Resolver.Prefixes tree) segments pre) :
    Chain.publicPath? (pre ++ back) tree path locations =
      (back.publicPath? tree path locations).map fun answer => Text.join ['/'] (segments ++ [answer]) := by
  induction h with
  | nil => exact Option.map_id'.symm
  | @cons segment r segments pre hr _ ih =>
    have hjoin : ∀ answer, Text.join ['/'] (segment :: segments ++ [answer]) =
        segment ++ '/' :: Text.join ['/'] (segments ++ [answer]) := by
      intro answer
      rw [List.cons_append, Text.join_cons_of_ne_nil (by simp), List.append_assoc]
      rfl
    calc Chain.publicPath? (r :: pre ++ back) tree path locations
        = (Chain.publicPath? (pre ++ back) tree path locations).map fun answer => segment ++ '/' :: answer :=
          hr _ path locations
      _ = (back.publicPath? tree path locations).map
            fun answer => segment ++ '/' :: Text.join ['/'] (segments ++ [answer]) := by
          rw [ih, Option.map_map]
          rfl
      _ = (back.publicPath? tree path locations).map
            fun answer => Text.join ['/'] (segment :: segments ++ [answer]) := by
          simp only [hjoin]

theorem asked_silent (h : ∀ r ∈ chain, r.Delegates tree) : (Chain.asked tree chain).Silent := by
  induction chain with
  | nil => exact ⟨fun _ _ => rfl, fun _ _ => rfl⟩
  | cons r more ih =>
    rw [List.forall_mem_cons] at h
    rw [asked_cons]
    exact h.1 _ (ih h.2)

/-- the location resolver answers alone, so that it ends a chain -/
theorem locationResolver_answersAlone (tree : FileTree) : locationResolver.AnswersAlone tree := fun _ _ => ⟨rfl, rfl⟩

/-- **Chains are made of their parts.**
- Behind a resolver that answers alone, further resolvers change neither answer of a chain, if those in front of it use
  the rest through its two answers only.
- The public path that resolvers with a segment each give is their segments, in the order of the chain, and then the
  answer of the resolver behind them; there is none just if that resolver has none.
- A chain of resolvers that only ask the rest answers nothing, and the empty chain is one. -/
theorem chain_composition (tree : FileTree) :
    (∀ (pre post : Chain) (t : Resolver), (∀ r ∈ pre, r.AsksOnly tree) → t.AnswersAlone tree → ∀ path locations,
      Chain.publicPath? (pre ++ [t] ++ post) tree path locations = Chain.publicPath? (pre ++ [t]) tree path locations ∧
      Chain.resource? (pre ++ [t] ++ post) tree path locations = Chain.resource? (pre ++ [t]) tree path locations) ∧
    (∀ (segments : List Text) (pre post : Chain) (t : Resolver), List.Forall₂ (Resolver.Prefixes tree) segments pre →
      ∀ path locations,
        Chain.publicPath? (pre ++ t :: post) tree path locations =
          (t.publicPath? tree (Chain.asked tree post) path locations).map
            (fun answer => Text.join ['/'] (segments ++ [answer])) ∧
        (Chain.publicPath? (pre ++ t :: post) tree path locations = none ↔
          t.publicPath? tree (Chain.asked tree post) path locations = none)) ∧
    (∀ chain : Chain, (∀ r ∈ chain, r.Delegates tree) → ∀ path locations,
      chain.publicPath? tree path locations = none ∧ chain.resource? tree path locations = none) := by
  refine ⟨fun pre post t hpre ht path locations => ?_, fun segments pre post t hpre path locations => ?_,
    fun chain h path locations => ⟨(asked_silent h).publicPath path locations, (asked_silent h).resource path locations⟩⟩
  · have hback : (Chain.asked tree (t :: post)).Alike (Chain.asked tree [t]) := by
      rw [asked_cons, asked_cons]
      exact ht _ _
    have halike := asked_append_alike hpre hback
    rw [List.append_assoc, List.singleton_append]
    exact ⟨congrFun₂ halike.publicPath path locations, congrFun₂ halike.resource path locations⟩
  · have hanswer : Chain.publicPath? (pre ++ t :: post) tree path locations =
        (t.publicPath? tree (Chain.asked tree post) path locations).map
          fun answer => Text.join ['/'] (segments ++ [answer]) := publicPath?_of_prefixes hpre
    exact ⟨hanswer, by rw [hanswer, Option.map_eq_none_iff]⟩

end ResourceServer.Resource

namespace ResourceServer

open Files (FileTree)
open Resource

/-! ## Some resolvers -/

/-- a resolver that answers every path with itself -/
def identityResolver : Resolver := ⟨"Identity".toList, fun _ _ path _ => some path, fun _ _ path _ => some path⟩

/-- a resolver that puts a version in front of what the rest of the chain answers -/
def versionResolver (version : Text) : Resolver where
  label := "Version".toList
  resource? _ rest := rest.resource?
  publicPath? _ rest path locations := (rest.publicPath? path locations).map (version ++ '/' :: ·)

theorem versionResolver_prefixes (tree : FileTree) (version : Text) : (versionResolver version).Prefixes tree version :=
  fun _ _ _ => rfl

theorem versionResolver_asksOnly (tree : FileTree) (version : Text) : (versionResolver version).AsksOnly tree := by
  intro a b h
  refine ⟨h.resource, ?_⟩
  funext path locations
  change (a.publicPath? path locations).map _ = (b.publicPath? path locations).map _
  rw [h.publicPath]

theorem versionResolver_delegates (tree : FileTree) (version : Text) : (versionResolver version).Delegates tree := by
  intro rest h
  refine ⟨h.resource, fun path locations => ?_⟩
  change (rest.publicPath? path locations).map _ = none
  rw [h.publicPath, Option.map_none]

/-- two versions in front of the location resolver and another resolver behind it: a file that is found, a path without
a file, and the versions alone -/
theorem chain_composition_versioned :
    let versions : Chain := [versionResolver "v2".toList, versionResolver "v1".toList]
    let found := "css/a..\\..b".toList
    (∀ r ∈ versions, r.AsksOnly plainTree) ∧ locationResolver.AnswersAlone plainTree ∧
      Chain.resource? (versions ++ [locationResolver] ++ [identityResolver]) plainTree found ["site".toList] =
        some "/srv/site/css/a..\\..b".toList ∧
      List.Forall₂ (Resolver.Prefixes plainTree) ["v2".toList, "v1".toList] versions ∧
      Chain.publicPath? (versions ++ locationResolver :: [identityResolver]) plainTree found ["site".toList] =
        some "v2/v1/css/a..\\..b".toList ∧
      Chain.publicPath? (versions ++ locationResolver :: [identityResolver]) plainTree "css".toList ["site".toList] =
        none ∧
      (∀ r ∈ versions, r.Delegates plainTree) ∧ Chain.publicPath? versions plainTree found ["site".toList] = none := by
  intro versions found
  obtain ⟨hbehind, hprefixes, hsilent⟩ := chain_composition plainTree
  have hasks : ∀ r ∈ versions, r.AsksOnly plainTree := by
    simp only [versions, List.forall_mem_cons]
    exact ⟨versionResolver_asksOnly _ _, versionResolver_asksOnly _ _, by simp⟩
  have hsegments : List.Forall₂ (Resolver.Prefixes plainTree) ["v2".toList, "v1".toList] versions :=
    .cons (versionResolver_prefixes _ _) (.cons (versionResolver_prefixes _ _) .nil)
  have hdelegates : ∀ r ∈ versions, r.Delegates plainTree := by
    simp only [versions, List.forall_mem_cons]
    exact ⟨versionResolver_delegates _ _, versionResolver_delegates _ _, by simp⟩
  have hfound : locationResolver.publicPath? plainTree (Chain.asked plainTree [identityResolver]) found ["site".toList] =
      some found := by
    decide +kernel
  have hmissing : locationResolver.publicPath? plainTree (Chain.asked plainTree [identityResolver]) "css".toList
      ["site".toList] = none := by
    decide +kernel
  refine ⟨hasks, locationResolver_answersAlone _, ?_, hsegments, ?_, ?_, hdelegates, (hsilent _ hdelegates _ _).1⟩
  · rw [(hbehind versions [identityResolver] _ hasks (locationResolver_answersAlone _) _ _).2]
    decide +kernel
  · rw [(hprefixes _ _ _ _ hsegments _ _).1, hfound]
    rfl
  · exact (hprefixes _ _ _ _ hsegments _ _).2.2 hmissing

/-- a resolver that counts the resolvers behind it does not use the rest through its answers only -/
example :
    let counting : Resolver :=
      ⟨"Counting".toList, fun _ rest _ _ => some (List.replicate rest.length '1'), fun _ _ _ _ => none⟩
    Chain.resource? [counting, identityResolver, identityResolver] plainTree [] [] ≠
      Chain.resource? [counting, identityResolver] plainTree [] [] := by
  decide

end ResourceServer
