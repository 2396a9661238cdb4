import Mathlib.Data.Set.Function
import FlowBlocks.Proofs.Batch.Transparency
/-!
What keys tell apart. The hashed bytes are cut at the first three zero bytes, and only the listing behind them
may hold more, so a listing that looks like the start of another one's bytes is not taken for it. Beyond that a
key is as good as the digest on the bytes that are hashed.
-/
namespace FlowBlocks

namespace Store

variable {inputs : Set (Bytes × Bytes × Bytes)}

theorem keySource_injOn (hplain : ∀ t ∈ inputs, 0 ∉ t.2.1 ∧ 0 ∉ t.2.2) :
    Set.InjOn (fun (src, graph, policy) => keySource src graph policy) inputs := by
  rintro ⟨src, graph, policy⟩ ht ⟨src', graph', policy'⟩ ht' heq
  obtain ⟨hgraph, hpolicy⟩ := hplain _ ht
  obtain ⟨hgraph', hpolicy'⟩ := hplain _ ht'
  obtain ⟨rfl, rfl, rfl⟩ := keySource_inj hgraph hgraph' hpolicy hpolicy' heq
  rfl

theorem key_injOn_iff (hplain : ∀ t ∈ inputs, 0 ∉ t.2.1 ∧ 0 ∉ t.2.2) :
    Set.InjOn (fun (src, graph, policy) => key src graph policy) inputs ↔
      Set.InjOn Digest.sha256 ((fun (src, graph, policy) => keySource src graph policy) '' inputs) := by
  constructor
  · intro h
    exact Set.InjOn.image_of_comp h
  · intro h
    exact h.comp (keySource_injOn hplain) (Set.mapsTo_image _ inputs)

end Store

namespace Batch

open Store

/-- The bytes that the key of a listing is the digest of. -/
def hashed (o : BatchOptions) (src : Bytes) : Bytes := keySource src o.graph.name o.policy.name

theorem key_eq_iff {o o' : BatchOptions} {src src' : Bytes}
    (hfree : Digest.sha256 (hashed o src) = Digest.sha256 (hashed o' src') → hashed o src = hashed o' src') :
    key o src = key o' src' ↔ src = src' ∧ o.graph = o'.graph ∧ o.policy = o'.policy := by
  constructor
  · intro h
    obtain ⟨hsrc, hgraph, hpolicy⟩ := keySource_inj (GraphKind.name_plain _) (GraphKind.name_plain _)
      (Policy.name_plain _) (Policy.name_plain _) (hfree h)
    exact ⟨hsrc, GraphKind.name_inj hgraph, Policy.name_inj hpolicy⟩
  · rintro ⟨rfl, hgraph, hpolicy⟩
    rw [key, key, hgraph, hpolicy]

/-- Where neither graph nor policy holds a zero byte, the bytes that are hashed tell listing, graph and policy
apart, whatever the listing holds. On any set of such inputs keys are distinct exactly if the digest has no
collision among the bytes hashed for them. Two listings of batches then have one place for their records only
if they are the same listing under the same choices. -/
theorem keys_tell_apart :
    (∀ src src' graph graph' policy policy' : Bytes, 0 ∉ graph → 0 ∉ graph' → 0 ∉ policy → 0 ∉ policy' →
      keySource src graph policy = keySource src' graph' policy' →
        src = src' ∧ graph = graph' ∧ policy = policy') ∧
    (∀ inputs : Set (Bytes × Bytes × Bytes), (∀ t ∈ inputs, 0 ∉ t.2.1 ∧ 0 ∉ t.2.2) →
      (Set.InjOn (fun (src, graph, policy) => Store.key src graph policy) inputs ↔
        Set.InjOn Digest.sha256 ((fun (src, graph, policy) => keySource src graph policy) '' inputs))) ∧
    ∀ (s : Store) (cwd : List Bytes) (o o' : BatchOptions) (src src' : Bytes),
      (Digest.sha256 (hashed o src) = Digest.sha256 (hashed o' src') → hashed o src = hashed o' src') →
      (s.site cwd (key o src) = s.site cwd (key o' src') ↔
        src = src' ∧ o.graph = o'.graph ∧ o.policy = o'.policy) := by
  refine ⟨?_, ?_, ?_⟩
  · intro src src' graph graph' policy policy' hgraph hgraph' hpolicy hpolicy' heq
    exact keySource_inj hgraph hgraph' hpolicy hpolicy' heq
  · intro inputs hplain
    exact key_injOn_iff hplain
  · intro s cwd o o' src src' hfree
    rw [← key_eq_iff hfree]
    exact ⟨site_inj, congrArg (s.site cwd)⟩

/-- A zero byte in graph or policy moves the border between them. -/
example : keySource [] [1, 0, 2] [3] = keySource [] [1] [2, 0, 3] := by decide

/-- One listing under three choices, and two listings that begin with choices of their own. -/
def lookalikes : List (Bytes × Bytes × Bytes) :=
  [(bytes "return\n", bytes "brief", bytes "bigblock"), (bytes "return\n", bytes "exceptional", bytes "bigblock"),
    (bytes "return\n", bytes "brief", bytes "classic"), (bytes "bigblock\x00return\n", bytes "brief", []),
    (bytes "brief\x00bigblock\x00return\n", [], [])]

theorem lookalikes_told_apart :
    keySource (bytes "bigblock\x00return\n") (bytes "brief") [] ≠
        keySource (bytes "return\n") (bytes "brief") (bytes "bigblock") ∧
      Set.InjOn (fun (src, graph, policy) => Store.key src graph policy) {t | t ∈ lookalikes} ∧
      Store.site ⟨bytes "cache"⟩ [] (key { graph := .brief } (bytes "return\n")) ≠
        Store.site ⟨bytes "cache"⟩ [] (key { graph := .exceptional } (bytes "return\n")) := by
  obtain ⟨hsource, hkeys, hplaces⟩ := keys_tell_apart
  refine ⟨?_, ?_, ?_⟩
  · intro heq
    obtain ⟨hsrc, -⟩ := hsource _ _ _ _ _ _ (by decide) (by decide) (by decide) (by decide) heq
    exact absurd hsrc (by decide)
  · have hplain : ∀ t ∈ lookalikes, 0 ∉ t.2.1 ∧ 0 ∉ t.2.2 := by decide
    have hfree : ∀ t ∈ lookalikes, ∀ t' ∈ lookalikes,
        Digest.sha256 (keySource t.1 t.2.1 t.2.2) = Digest.sha256 (keySource t'.1 t'.2.1 t'.2.2) → t = t' := by
      decide +kernel
    refine (hkeys _ hplain).mpr ?_
    rintro _ ⟨t, ht, rfl⟩ _ ⟨t', ht', rfl⟩ heq
    rw [hfree t ht t' ht' heq]
  · intro heq
    obtain ⟨-, hgraph, -⟩ := (hplaces ⟨bytes "cache"⟩ [] _ _ _ _ (by decide +kernel)).mp heq
    cases hgraph

end Batch

end FlowBlocks
