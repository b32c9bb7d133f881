import GraphBrowser.Proofs.Report.Section

namespace GraphBrowser

namespace Report

end Report

end GraphBrowser
