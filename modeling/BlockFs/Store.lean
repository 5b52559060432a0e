import BlockFs.Format
import BlockFs.Mount.Lifetime

namespace BlockFs

/-- What a host needs of a filesystem, whatever it does with it. -/
class MetadataStore (μ : Type) (δ : Type) where
  format : Engine δ Superblock
  mount : Engine δ μ
  sync : μ → (wait : Bool) → Engine δ μ
  stats : μ → Stats
  unmount : μ → Engine δ Unit

instance {δ : Type} [BlockDevice δ] : MetadataStore Mount δ where
  format := BlockFs.format
  mount := BlockFs.mount
  sync mounted wait := mounted.sync (.ofWait wait)
  stats := Mount.stats
  unmount := Mount.unmount

end BlockFs
