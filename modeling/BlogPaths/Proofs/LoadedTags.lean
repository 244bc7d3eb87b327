import BlogPaths.Reading.Resource

/-! The tags of resources as they are loaded.  Of equal tags the first is kept, and what is kept has
to be a text, so that no resource is loaded with a tag twice. -/
namespace BlogPaths

open Checked

namespace Checked

variable {α : Type}

end Checked

namespace Tags

end Tags

namespace Resource

end Resource

end BlogPaths
