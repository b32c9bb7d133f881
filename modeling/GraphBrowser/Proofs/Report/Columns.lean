import GraphBrowser.Proofs.Report.Section
import Mathlib.Data.String.Basic

namespace GraphBrowser

namespace Report

variable {keys : List String} {key : String}

end Report

end GraphBrowser
