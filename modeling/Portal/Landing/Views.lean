import Portal.Web.View
import Portal.Web.Routes
/-! The public pages: the home page with its feature and pricing summaries, the pricing
page and the features page. Each accepts GET only. -/
namespace Portal
namespace Landing
open Web

def feature (title description icon : String) : Json :=
  .obj [("title", .str title), ("description", .str description), ("icon", .str icon)]

def features : Json := .arr [
  feature "Dashboard Intuitivo" "Panel de control fácil de usar con todas tus métricas importantes." "chart-bar",
  feature "Autenticación Segura" "Sistema de autenticación robusto con verificación de email." "shield-check",
  feature "Diseño Responsive" "Interfaz moderna que funciona perfectamente en todos los dispositivos." "device-mobile",
  feature "Suscripciones Flexibles" "Sistema de pagos seguro con Stripe para gestionar suscripciones." "credit-card"]

def pricing : Json := .obj [("monthly_price", .str "9.99"), ("features", Json.strs [
  "Acceso completo al dashboard", "Soporte prioritario", "Características premium",
  "Actualizaciones ilimitadas", "API access", "Backups diarios"])]

def page (r : Request) : LandingPage → App Response
  | .home => guarded [requireMethods ["GET"] r]
      (App.render "landing/home.html" [("features", features), ("pricing", pricing)])
  | .pricing => guarded [requireMethods ["GET"] r] (App.render "landing/pricing.html" [])
  | .features => guarded [requireMethods ["GET"] r] (App.render "landing/features.html" [])

end Landing
end Portal
