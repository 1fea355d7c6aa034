import StageGate.Cluster.Snapshot
import StageGate.Config

/-!
Sites: a cluster and the files that the stages are read from. Surroundings hold a site in worlds of any
kind, so that a clock may go on while it is read.
-/

namespace StageGate

structure Site where
  cluster : Cluster
  files : Files.Tree

namespace Site

/-- The surroundings of a reconcile at a site, whose clock stands still. -/
def host (now : Rat) : Host Site :=
  ⟨fun _ => now, fun l t s => (s.cluster.get l, t, s)⟩

def settings [Yaml.Reader] (c : Config) : Settings Site :=
  c.settings (StageSource.ofDirectories Site.files c.stageDirs)

end Site

/-- Look-ups are answered by the cluster of a site, and leave the site and the token as they are. -/
structure Host.Reads {World : Type} (h : Host World) (site : World → Site) : Prop where
  result : ∀ l t w, (h.get l t w).1 = (site w).cluster.get l
  token : ∀ l t w, (h.get l t w).2.1 = t
  site : ∀ l t w, site (h.get l t w).2.2 = site w

theorem Site.host_reads (now : Rat) : (Site.host now).Reads id :=
  ⟨fun _ _ _ => rfl, fun _ _ _ => rfl, fun _ _ _ => rfl⟩

/-- Worlds that each hold a site, one of them for any site to begin with, and a host that reads it. -/
structure Surroundings (World : Type) where
  site : World → Site
  enter : Site → World
  site_enter : ∀ s, site (enter s) = s
  host : Host World
  reads : host.Reads site

namespace Surroundings

/-- A site alone, whose clock stands still. -/
def still (now : Rat) : Surroundings Site where
  site := id
  enter := id
  site_enter _ := rfl
  host := Site.host now
  reads := Site.host_reads now

def settings [Yaml.Reader] {World : Type} (s : Surroundings World) (c : Config) : Settings World :=
  c.settings (.ofDirectories (fun w => (s.site w).files) c.stageDirs)

end Surroundings
end StageGate
