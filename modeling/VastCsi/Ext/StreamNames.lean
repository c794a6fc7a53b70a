import VastCsi.Ext.StreamMesh

/-!
# The names of streams

The name of a stream is the owner's name and the names of the two peers, joined by dashes and cut
to 64 bytes. The owner's name and its dash are common to all names of a constellation, so two
names are the same exactly when the bytes of the peers that the cut leaves are.
-/

namespace VastCsi.Ext.StreamMesh

open Lib CsiAddons Constellation List

/-- What a name keeps of the peers of its link. -/
def peersInName (cfg : Setting) (l : ReplicationLink) : List UInt8 :=
  (goString (l.localPeerName ++ "-" ++ l.remotePeerName)).take
    (vastNameMaxLen - (goString cfg.ownerName ++ goString "-").length)

/-- Two links of a cluster differ in what is compared. -/
def LinksApart {α : Type} (cfg : Setting) (f : ReplicationLink → α) : Prop :=
  ∀ l ∈ cfg.links, ∀ k ∈ cfg.links, l.edge.sideA = k.edge.sideA → l ≠ k → f l ≠ f k

variable {cfg : Setting} {vms : Vms} {l k : ReplicationLink}

theorem streamName_eq_iff :
    cfg.streamName l = cfg.streamName k ↔ peersInName cfg l = peersInName cfg k := by
  have hname : ∀ l, cfg.streamName l =
      (goString cfg.ownerName ++ goString "-").take vastNameMaxLen ++ peersInName cfg l := by
    intro l
    rw [Setting.streamName, truncateName, peersInName, ← take_append]
    simp only [goString_append, append_assoc]
  rw [hname, hname, append_cancel_left_eq]

/-- **The names of the links of a cluster** differ exactly when the peers that are left in them
do, and then, after any attempts, a stream with the name of a link is the stream of that link, or
the embedded one. -/
theorem names_apart_iff (cfg : Setting) (vms : Vms) :
    (LinksApart cfg cfg.streamName ↔ LinksApart cfg (peersInName cfg)) ∧
      (LinksApart cfg (peersInName cfg) → ∀ (attempts : List (Attempt cfg)) (w : World Ppath),
        runFrom (step cfg vms) start attempts = some w →
        ∀ l ∈ cfg.links, ∀ st ∈ w.own.streams,
          st.cluster = l.edge.sideA → st.name = cfg.streamName l → st = linkStream cfg l ∨
              ∃ first ∈ (cfg.pairs cfg.primarySC).head?, st = embedded vms first) := by
  have hsame : LinksApart cfg cfg.streamName ↔ LinksApart cfg (peersInName cfg) := by
    unfold LinksApart
    simp only [ne_eq, streamName_eq_iff]
  refine ⟨hsame, fun happart attempts w hrun l hl st hst hcluster hname => ?_⟩
  have hmade : Made cfg vms w.own :=
    runFrom_keeps made_empty (fun _ => keeps_ensureConstellationPpath) hrun
  rcases hmade.streams st hst with hfirst | ⟨k, hk, rfl, -⟩
  · exact .inr hfirst
  · left
    by_contra hne
    refine hsame.mpr happart k hk.1 l hl hcluster (fun heq => hne ?_) hname
    rw [heq]

/-- The owner's name leaves no room for the peers. -/
def star : Setting where
  topology := [⟨"a", "b", "ab"⟩, ⟨"a", "c", "ac"⟩, ⟨"a", "d", "ad"⟩]
  primarySC := "a"
  ownerName := "replication-of-all-the-databases-of-the-warehouse-in-frankfurt1"
  peerNameOf := fun sc peer => sc ++ "." ++ peer
  tenantGuid := id

/-- The stream to the third target is never added: the attempt returns, and the name is that of
the stream to the second one. -/
theorem third_target_missing :
    star.links.map star.streamName = List.replicate 3 (goString (star.ownerName ++ "-")) ∧
      streamsAfter star = some [("a", "c", false), ("a", "b", false)] := by
  decide +kernel

end VastCsi.Ext.StreamMesh
