import Unmark.Render.Renderer
import Unmark.Storage.Destination
/-!
Rendering to somewhere. A document is rendered to text before anything is sent, so that a document that cannot be
rendered leaves its destination alone.
-/
namespace Unmark.Renderer

def renderTo (r : Renderer) (files : FileTree) (nodes : List Node) (d : Destination) : Logged Delivery := do
  let t ← r.renderToText nodes
  Logged.ofExcept (d.deliver files t)

/-- renders a document to bytes, by way of a byte stream -/
def renderToBytes (r : Renderer) (nodes : List Node) : Logged Bytes := do
  let t ← r.renderToText nodes
  return Utf8.encode t

end Unmark.Renderer
