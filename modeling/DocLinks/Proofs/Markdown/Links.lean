import DocLinks.Link
import DocLinks.Proofs.Tree.Select

namespace DocLinks

open Markdown (Element Node)

end DocLinks
