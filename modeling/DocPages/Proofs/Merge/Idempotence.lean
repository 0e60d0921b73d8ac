import DocPages.Proofs.Merge.Arrangement

namespace DocPages

variable [PropertyFamily]

namespace MergeConfig

variable (config : MergeConfig)

theorem merged_merged (root : Page) : config.merged (config.merged root) = config.merged root := by
  induction root using config.arrange_induction with
  | step root ih =>
      have hchildren := config.arrange_map_arrange config.key_merged root.children
      rw [config.merged_eq (config.merged root), config.merged_eq root]
      simp only [hchildren, List.map_map]
      congr 1
      apply List.map_congr_left
      intro child hchild
      exact ih child hchild

end MergeConfig

/-- What a configured chain has merged it gives back as it is when it merges it again. -/
theorem Chain.merge_idempotent (config : MergeConfig) (root : Page) :
    ∃ result, (ofConfig config).merge root = .ok result ∧
      (ofConfig config).merge result = .ok result := by
  refine ⟨config.merged root, merge_ofConfig config root, ?_⟩
  rw [merge_ofConfig, config.merged_merged]

end DocPages
